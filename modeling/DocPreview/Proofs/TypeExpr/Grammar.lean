import DocPreview.Proofs.TypeExpr.Tokens
import DocPreview.TypeExpr.Spelling
import Mathlib.Data.List.Induction

/-!
# The grammar of type expressions

The grammar is stated over the tokens that a text spells, one constructor for each production. A
text spells at most one sequence of tokens, the tokens derive at most one expression, and the
reader finds that expression whenever there is one. So a blank between two tokens may come and go as
long as it does not keep two of them apart.
-/

set_option autoImplicit false

namespace DocPreview

namespace TypeToken

/-- The characters are the tokens with any blanks around them. A name ends where its characters
end. -/
inductive Spells : List Char → List TypeToken → Prop where
  | nothing : Spells [] []
  | blank {char : Char} {chars : List Char} {tokens : List TypeToken} :
      isBlank char = true → Spells chars tokens → Spells (char :: chars) tokens
  | name {name chars : List Char} {tokens : List TypeToken} :
      isName name = true → endsName chars = true → Spells chars tokens →
      Spells (name ++ chars) (.name name :: tokens)
  | mark {char : Char} {chars : List Char} {tokens : List TypeToken} :
      isMark char = true → Spells chars tokens → Spells (char :: chars) (.mark char :: tokens)

theorem Spells.scan_eq {chars : List Char} {tokens : List TypeToken}
    (spells : Spells chars tokens) : scan chars = some tokens := by
  induction spells with
  | nothing => exact scan_nil
  | blank blank _ ih => rw [scan_blank_cons blank, ih]
  | name valid ends _ ih => rw [scan_name_append valid ends, ih, Option.map_some]
  | mark mark _ ih => rw [scan_mark_cons mark, ih, Option.map_some]

theorem endsName_dropWhile (chars : List Char) :
    endsName (chars.dropWhile continuesName) = true := by
  unfold endsName
  cases left : (chars.dropWhile continuesName).head? with
  | none => rfl
  | some char =>
      have stops := List.head?_dropWhile_not continuesName chars
      rw [left] at stops
      simpa using stops

theorem spells_of_scan {chars : List Char} {tokens : List TypeToken}
    (scanned : scan chars = some tokens) : Spells chars tokens := by
  fun_induction scan chars generalizing tokens with
  | case1 =>
      cases scanned
      exact .nothing
  | case2 first chars begins ih =>
      obtain ⟨rest, restScanned, rfl⟩ := Option.map_eq_some_iff.mp scanned
      have valid : isName (first :: chars.takeWhile continuesName) = true := by
        simp only [isName, begins, Bool.true_and, List.all_eq_true]
        intro char member
        exact List.mem_takeWhile_imp member
      have spells := Spells.name valid (endsName_dropWhile chars) (ih restScanned)
      rwa [List.cons_append, List.takeWhile_append_dropWhile] at spells
  | case3 first chars _ mark ih =>
      obtain ⟨rest, restScanned, rfl⟩ := Option.map_eq_some_iff.mp scanned
      exact .mark mark (ih restScanned)
  | case4 first chars _ _ blank ih => exact .blank blank (ih scanned)
  | case5 => cases scanned

theorem scan_eq_some_iff {chars : List Char} {tokens : List TypeToken} :
    scan chars = some tokens ↔ Spells chars tokens :=
  ⟨spells_of_scan, Spells.scan_eq⟩

/-! ## Blanks between tokens -/

/-- No name goes on from the characters in front to those behind. -/
def Apart (front back : List Char) : Prop :=
  ∀ last ∈ front.getLast?, (beginsName last || continuesName last) = true → endsName back = true

theorem Apart.of_cons {first : Char} {front back : List Char}
    (apart : Apart (first :: front) back) : Apart front back := by
  intro last member
  cases front with
  | nil => cases member
  | cons next front => exact apart last (by rwa [List.getLast?_cons_cons])

theorem Apart.of_suffix {front rest back : List Char} (apart : Apart front back)
    (suffix : rest <:+ front) : Apart rest back := by
  obtain ⟨dropped, rfl⟩ := suffix
  induction dropped with
  | nil => exact apart
  | cons first dropped ih => exact ih apart.of_cons

/-- A name in front that reaches up to the cut ends there. -/
theorem Apart.endsName {first : Char} {front back : List Char}
    (apart : Apart (first :: front) back) (begins : beginsName first = true)
    (whole : front.dropWhile continuesName = []) : endsName back = true := by
  have within : ∀ char ∈ front, continuesName char = true := List.dropWhile_eq_nil_iff.mp whole
  cases front using List.reverseRecOn with
  | nil => exact apart first rfl (by rw [begins, Bool.true_or])
  | append_singleton front last _ =>
      refine apart last ?_ ?_
      · rw [← List.cons_append, List.getLast?_concat]
        rfl
      · rw [within last (List.mem_append_right front List.mem_cons_self), Bool.or_true]

/-- What follows a name in front decides where the name ends. -/
theorem takeWhile_append_apart {first : Char} {front back : List Char}
    (apart : Apart (first :: front) back) (begins : beginsName first = true) :
    (front ++ back).takeWhile continuesName = front.takeWhile continuesName ∧
      (front ++ back).dropWhile continuesName = front.dropWhile continuesName ++ back := by
  have ends : TypeToken.endsName (front.dropWhile continuesName ++ back) = true := by
    cases left : front.dropWhile continuesName with
    | nil => exact apart.endsName begins left
    | cons char rest =>
        have stops := endsName_dropWhile front
        rw [left] at stops
        exact stops
  have split := takeWhile_append_of_endsName
    (fun char member => List.mem_takeWhile_imp (l := front) member) ends
  rwa [← List.append_assoc, List.takeWhile_append_dropWhile] at split

theorem Apart.blanks {front blanks back : List Char} (apart : Apart front back)
    (blank : ∀ char ∈ blanks, isBlank char = true) : Apart front (blanks ++ back) := by
  intro last member named
  cases blanks with
  | nil => exact apart last member named
  | cons char blanks =>
      obtain ⟨_, ends, _⟩ := not_of_isBlank (blank char List.mem_cons_self)
      simp [TypeToken.endsName, ends]

/-- Blanks may stand wherever no name goes on. -/
theorem scan_append_blanks_append {front blanks back : List Char} (apart : Apart front back)
    (blank : ∀ char ∈ blanks, isBlank char = true) :
    scan (front ++ (blanks ++ back)) = scan (front ++ back) := by
  fun_induction scan front with
  | case1 => exact scan_blanks_append blank back
  | case2 first front begins ih =>
      obtain ⟨taken, dropped⟩ := takeWhile_append_apart apart begins
      obtain ⟨takenBlank, droppedBlank⟩ := takeWhile_append_apart (apart.blanks blank) begins
      have later := ih (apart.of_cons.of_suffix (List.dropWhile_suffix _))
      rw [List.cons_append, List.cons_append, scan, if_pos begins, takenBlank, droppedBlank, later,
        scan, if_pos begins, taken, dropped]
  | case3 first front _ mark ih =>
      rw [List.cons_append, List.cons_append, scan_mark_cons mark, scan_mark_cons mark,
        ih apart.of_cons]
  | case4 first front _ _ isBlank ih =>
      rw [List.cons_append, List.cons_append, scan_blank_cons isBlank, scan_blank_cons isBlank,
        ih apart.of_cons]
  | case5 first front noName noMark noBlank =>
      rw [List.cons_append, List.cons_append, scan, if_neg noName, if_neg noMark, if_neg noBlank,
        scan, if_neg noName, if_neg noMark, if_neg noBlank]

end TypeToken

/-! ## The productions -/

/-- `Suffix ::= '[' ','* ']' | '?' | '*'`. An array has one dimension more than commas. -/
inductive TypeSuffix.Derives : List TypeToken → TypeSuffix → Prop where
  | array (commas : Nat) :
      Derives (.mark '[' :: (List.replicate commas (.mark ',') ++ [.mark ']']))
        (.array (commas + 1))
  | nullable : Derives [.mark '?'] .nullable
  | pointer : Derives [.mark '*'] .pointer

/-- `Suffix*` -/
inductive TypeSuffix.DerivesAll : List TypeToken → List TypeSuffix → Prop where
  | none : DerivesAll [] []
  | more {front back : List TypeToken} {suffix : TypeSuffix} {suffixes : List TypeSuffix} :
      TypeSuffix.Derives front suffix → DerivesAll back suffixes →
      DerivesAll (front ++ back) (suffix :: suffixes)

namespace TypeExpr

mutual

/-- `Type ::= Name [ '<' Type { ',' Type } '>' ] Suffix*` -/
inductive Derives : List TypeToken → TypeExpr → Prop where
  | bare {name : List Char} {rest : List TypeToken} {suffixes : List TypeSuffix} :
      TypeToken.isName name = true → TypeSuffix.DerivesAll rest suffixes →
      Derives (.name name :: rest) (.named (String.ofList name) [] suffixes)
  | generic {name : List Char} {inside rest : List TypeToken} {arguments : List TypeExpr}
      {suffixes : List TypeSuffix} :
      TypeToken.isName name = true → DerivesArguments inside arguments →
      TypeSuffix.DerivesAll rest suffixes →
      Derives (.name name :: .mark '<' :: (inside ++ .mark '>' :: rest))
        (.named (String.ofList name) arguments suffixes)

/-- `Type { ',' Type }` -/
inductive DerivesArguments : List TypeToken → List TypeExpr → Prop where
  | one {tokens : List TypeToken} {argument : TypeExpr} :
      Derives tokens argument → DerivesArguments tokens [argument]
  | more {front back : List TypeToken} {argument : TypeExpr} {arguments : List TypeExpr} :
      Derives front argument → DerivesArguments back arguments →
      DerivesArguments (front ++ .mark ',' :: back) (argument :: arguments)

end

/-! ## The tokens of a derivation -/

theorem suffix_derives_iff {tokens : List TypeToken} {suffix : TypeSuffix} :
    TypeSuffix.Derives tokens suffix ↔ suffix.IsProper ∧ tokens = suffix.tokens := by
  constructor
  · intro derives
    cases derives with
    | array commas =>
        refine ⟨Nat.succ_pos commas, ?_⟩
        rw [TypeSuffix.tokens, TypeSuffix.openTokens, Nat.add_sub_cancel]
        rfl
    | nullable => exact ⟨trivial, rfl⟩
    | pointer => exact ⟨trivial, rfl⟩
  · intro both
    obtain ⟨proper, rfl⟩ := both
    cases suffix with
    | array rank =>
        obtain ⟨commas, rfl⟩ := Nat.exists_eq_succ_of_ne_zero (Nat.pos_iff_ne_zero.mp proper)
        exact .array commas
    | nullable => exact .nullable
    | pointer => exact .pointer

theorem suffixes_derives_iff {tokens : List TypeToken} {suffixes : List TypeSuffix} :
    TypeSuffix.DerivesAll tokens suffixes ↔
      (∀ suffix ∈ suffixes, suffix.IsProper) ∧
        tokens = suffixes.flatMap TypeSuffix.tokens := by
  constructor
  · intro derives
    induction derives with
    | none => exact ⟨fun _ member => absurd member List.not_mem_nil, rfl⟩
    | more first _ ih =>
        obtain ⟨proper, rfl⟩ := suffix_derives_iff.mp first
        obtain ⟨allProper, rfl⟩ := ih
        exact ⟨List.forall_mem_cons.mpr ⟨proper, allProper⟩, List.flatMap_cons.symm⟩
  · intro both
    obtain ⟨proper, rfl⟩ := both
    induction suffixes with
    | nil => exact .none
    | cons suffix suffixes ih =>
        obtain ⟨first, further⟩ := List.forall_mem_cons.mp proper
        rw [List.flatMap_cons]
        exact .more (suffix_derives_iff.mpr ⟨first, rfl⟩) (ih further)

mutual

/-- The derived expression writes the tokens that it is derived from. -/
theorem Derives.written {tokens : List TypeToken} {expr : TypeExpr}
    (derives : Derives tokens expr) : WellFormed expr ∧ tokens = expr.tokens := by
  cases derives with
  | bare valid suffixes =>
      obtain ⟨proper, rfl⟩ := suffixes_derives_iff.mp suffixes
      refine ⟨.named (by rwa [String.toList_ofList]) ?_ proper, ?_⟩
      · intro argument member
        exact absurd member List.not_mem_nil
      · rw [TypeExpr.tokens, String.toList_ofList]
  | generic valid inside suffixes =>
      obtain ⟨proper, rfl⟩ := suffixes_derives_iff.mp suffixes
      obtain ⟨argument, further, rfl, within, closed⟩ := inside.written
      refine ⟨.named (by rwa [String.toList_ofList]) within proper, ?_⟩
      rw [TypeExpr.tokens, String.toList_ofList, ← closed, List.append_assoc]
      rfl

theorem DerivesArguments.written {tokens : List TypeToken} {arguments : List TypeExpr}
    (derives : DerivesArguments tokens arguments) :
    ∃ argument further, arguments = argument :: further ∧
      (∀ argument ∈ arguments, WellFormed argument) ∧
      tokens ++ [.mark '>'] = argument.tokens ++ furtherTokens further := by
  cases derives with
  | one single =>
      obtain ⟨valid, rfl⟩ := single.written
      exact ⟨_, [], rfl, List.forall_mem_singleton.mpr valid, rfl⟩
  | more first rest =>
      obtain ⟨valid, rfl⟩ := first.written
      obtain ⟨next, further, rfl, within, closed⟩ := rest.written
      refine ⟨_, _, rfl, List.forall_mem_cons.mpr ⟨valid, within⟩, ?_⟩
      rw [List.append_assoc, List.cons_append, closed, furtherTokens]

end

theorem derivesArguments_tokens {argument : TypeExpr} {further : List TypeExpr}
    (inside : ∀ expr ∈ argument :: further, Derives expr.tokens expr) :
    ∃ tokens, DerivesArguments tokens (argument :: further) ∧
      tokens ++ [.mark '>'] = argument.tokens ++ furtherTokens further := by
  induction further generalizing argument with
  | nil => exact ⟨_, .one (inside argument List.mem_cons_self), rfl⟩
  | cons next further ih =>
      obtain ⟨first, later⟩ := List.forall_mem_cons.mp inside
      obtain ⟨tokens, derives, closed⟩ := ih later
      refine ⟨_, .more first derives, ?_⟩
      rw [List.append_assoc, List.cons_append, closed, furtherTokens]

theorem WellFormed.derives {expr : TypeExpr} (valid : WellFormed expr) :
    Derives expr.tokens expr := by
  induction valid with
  | @named name arguments suffixes isName _ proper ih =>
      have written := suffixes_derives_iff.mpr ⟨proper, rfl⟩
      cases arguments with
      | nil =>
          have bare := Derives.bare isName written
          rwa [String.ofList_toList] at bare
      | cons argument further =>
          obtain ⟨inside, derives, closed⟩ := derivesArguments_tokens ih
          have generic := Derives.generic isName derives written
          rw [String.ofList_toList] at generic
          rwa [TypeExpr.tokens, ← closed, List.append_assoc]

theorem derives_iff {tokens : List TypeToken} {expr : TypeExpr} :
    Derives tokens expr ↔ WellFormed expr ∧ tokens = expr.tokens := by
  constructor
  · exact Derives.written
  · intro both
    obtain ⟨valid, rfl⟩ := both
    exact valid.derives

theorem Derives.ofTokens?_eq {tokens : List TypeToken} {expr : TypeExpr}
    (derives : Derives tokens expr) : ofTokens? tokens = some expr := by
  obtain ⟨valid, rfl⟩ := derives.written
  exact ofTokens?_tokens valid

/-! ## The reader and the grammar -/

theorem ofText?_eq_some_iff {text : String} {expr : TypeExpr} :
    ofText? text = some expr ↔
      ∃ tokens, TypeToken.Spells text.toList tokens ∧ Derives tokens expr := by
  constructor
  · intro read
    obtain ⟨scanned, valid⟩ := ofText?_sound read
    exact ⟨expr.tokens, TypeToken.scan_eq_some_iff.mp scanned, derives_iff.mpr ⟨valid, rfl⟩⟩
  · intro derivation
    obtain ⟨tokens, spells, derives⟩ := derivation
    rw [ofText?, TypeToken.scan_eq_some_iff.mpr spells, Option.bind_some, derives.ofTokens?_eq]

/-- A text is read exactly when its tokens derive an expression, and as the only one they derive.
Blanks where no name goes on make no difference, and a text that derives nothing is shown without
the blanks around it. -/
theorem ofText?_follows_grammar (text : String) :
    (∀ expr, ofText? text = some expr ↔
      ∃ tokens, TypeToken.Spells text.toList tokens ∧ Derives tokens expr) ∧
    (∀ first second, TypeToken.Spells text.toList first → TypeToken.Spells text.toList second →
      first = second) ∧
    (∀ tokens first second, Derives tokens first → Derives tokens second → first = second) ∧
    (∀ front blanks back, text.toList = front ++ back → TypeToken.Apart front back →
      (∀ char ∈ blanks, isBlank char = true) →
      ofText? (String.ofList (front ++ (blanks ++ back))) = ofText? text) ∧
    ((¬∃ tokens expr, TypeToken.Spells text.toList tokens ∧ Derives tokens expr) →
      ∀ dialect : Dialect, dialect.displayType text = trimmed text) := by
  refine ⟨fun expr => ofText?_eq_some_iff, ?_, ?_, ?_, ?_⟩
  · intro first second spellsFirst spellsSecond
    exact Option.some.inj (spellsFirst.scan_eq.symm.trans spellsSecond.scan_eq)
  · intro tokens first second derivesFirst derivesSecond
    exact Option.some.inj (derivesFirst.ofTokens?_eq.symm.trans derivesSecond.ofTokens?_eq)
  · intro front blanks back split apart blank
    rw [ofText?, ofText?, String.toList_ofList, TypeToken.scan_append_blanks_append apart blank,
      split]
  · intro underived dialect
    have refused : ofText? text = none := by
      cases read : ofText? text with
      | none => rfl
      | some expr =>
          obtain ⟨tokens, derivation⟩ := ofText?_eq_some_iff.mp read
          exact absurd ⟨tokens, expr, derivation⟩ underived
    rw [Dialect.displayType, refused]

/-- A comma may separate arguments or count dimensions, and a list of arguments must be closed. -/
theorem ofText?_follows_grammar_commas :
    let expr : TypeExpr :=
      .named "Map" [.named "int" [] [.array 2], .named "T.Key" [] []] [.nullable]
    let written := "Map<int[,],T.Key>?"
    TypeToken.Spells written.toList expr.tokens ∧ Derives expr.tokens expr ∧
      ofText? written = some expr ∧
      TypeToken.Apart "Map<int[,],".toList "T.Key>?".toList ∧
      ofText? "Map<int[,], T.Key>?" = ofText? written ∧
      (¬∃ tokens expr, TypeToken.Spells " List<int".toList tokens ∧ Derives tokens expr) ∧
      Dialect.visualBasic.displayType " List<int" = "List<int" := by
  intro expr written
  have spells : TypeToken.Spells written.toList expr.tokens :=
    TypeToken.spells_of_scan (by decide +kernel)
  have array : TypeSuffix.DerivesAll [.mark '[', .mark ',', .mark ']'] [.array 2] :=
    .more (.array 1) .none
  have nullable : TypeSuffix.DerivesAll [.mark '?'] [.nullable] := .more .nullable .none
  have inside : DerivesArguments
      [.name "int".toList, .mark '[', .mark ',', .mark ']', .mark ',', .name "T.Key".toList]
      [.named "int" [] [.array 2], .named "T.Key" [] []] :=
    .more (.bare (by decide) array) (.one (.bare (by decide) .none))
  have derives : Derives expr.tokens expr := .generic (by decide) inside nullable
  obtain ⟨accepted, _, _, respaced, _⟩ := ofText?_follows_grammar written
  obtain ⟨refused, _, _, _, shown⟩ := ofText?_follows_grammar " List<int"
  have apart : TypeToken.Apart "Map<int[,],".toList "T.Key>?".toList := by
    intro last member named
    cases member
    cases named
  have open_ : ¬∃ tokens expr,
      TypeToken.Spells " List<int".toList tokens ∧ Derives tokens expr := by
    intro derived
    obtain ⟨tokens, expr, derivation⟩ := derived
    have read := (refused expr).mpr ⟨tokens, derivation⟩
    have unread : (ofText? " List<int").isSome = false := by decide +kernel
    rw [read] at unread
    cases unread
  refine ⟨spells, derives, (accepted expr).mpr ⟨_, spells, derives⟩, apart, ?_, open_, ?_⟩
  · exact respaced "Map<int[,],".toList [' '] "T.Key>?".toList (by decide) apart
      (List.forall_mem_singleton.mpr rfl)
  · exact shown open_ .visualBasic

end TypeExpr

end DocPreview

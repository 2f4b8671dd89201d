import DocPreview.TypeExpr.Basic
import Mathlib.Data.List.TakeWhile

/-!
# The tokens of a type expression

What the scanner makes of a text and what the reader makes of the tokens. An expression is written
by one sequence of tokens, the reader gives back the expression that wrote it, and it reads nothing
else.
-/

set_option autoImplicit false

namespace DocPreview

namespace TypeToken

/-! ## Classes of characters -/

theorem isBlank_eq_false_of_range {char : Char} (low : 0x2A ≤ char.toNat)
    (high : char.toNat ≤ 0x7A) : isBlank char = false := by
  grind [isBlank]

theorem range_of_isAlpha {char : Char} (alpha : char.isAlpha = true) :
    0x41 ≤ char.toNat ∧ char.toNat ≤ 0x7A := by
  obtain upper | lower := Bool.or_eq_true_iff.mp alpha
  · obtain ⟨low, high⟩ := of_decide_eq_true upper
    exact ⟨UInt32.le_iff_toNat_le.mp low, (UInt32.le_iff_toNat_le.mp high).trans (by decide)⟩
  · obtain ⟨low, high⟩ := Bool.and_eq_true_iff.mp lower
    exact ⟨le_trans (by decide) (UInt32.le_iff_toNat_le.mp (of_decide_eq_true low)),
      UInt32.le_iff_toNat_le.mp (of_decide_eq_true high)⟩

theorem range_of_isDigit {char : Char} (digit : char.isDigit = true) :
    0x30 ≤ char.toNat ∧ char.toNat ≤ 0x39 := by
  simpa [Char.isDigit, UInt32.le_iff_toNat_le] using digit

theorem isBlank_of_continuesName {char : Char} (continues : continuesName char = true) :
    isBlank char = false := by
  simp only [continuesName, Char.isAlphanum, Bool.or_eq_true, beq_iff_eq] at continues
  rcases continues with (((alpha | digit) | rfl) | rfl) | rfl
  · have := range_of_isAlpha alpha
    exact isBlank_eq_false_of_range (by omega) (by omega)
  · have := range_of_isDigit digit
    exact isBlank_eq_false_of_range (by omega) (by omega)
  all_goals decide

theorem isBlank_of_beginsName {char : Char} (begins : beginsName char = true) :
    isBlank char = false := by
  simp only [beginsName, Bool.or_eq_true, beq_iff_eq] at begins
  rcases begins with (alpha | rfl) | rfl
  · have := range_of_isAlpha alpha
    exact isBlank_eq_false_of_range (by omega) (by omega)
  all_goals decide

theorem not_of_isMark {char : Char} (mark : isMark char = true) :
    beginsName char = false ∧ continuesName char = false ∧ isBlank char = false := by
  simp only [isMark, Bool.or_eq_true, beq_iff_eq] at mark
  rcases mark with (((((rfl | rfl) | rfl) | rfl) | rfl) | rfl) | rfl <;> decide

theorem not_of_isBlank {char : Char} (blank : isBlank char = true) :
    beginsName char = false ∧ continuesName char = false ∧ isMark char = false := by
  refine ⟨?_, ?_, ?_⟩ <;> rw [Bool.eq_false_iff] <;> intro belongs
  · simp [isBlank_of_beginsName belongs] at blank
  · simp [isBlank_of_continuesName belongs] at blank
  · simp [(not_of_isMark belongs).2.2] at blank

def isName : List Char → Bool
  | [] => false
  | first :: rest => beginsName first && rest.all continuesName

/-- Whether a name that ends where the characters begin ends there. -/
def endsName (chars : List Char) : Bool :=
  chars.head?.all fun char => !continuesName char

/-! ## Scanning -/

@[simp] theorem scan_nil : scan [] = some [] := by
  rw [scan]

theorem takeWhile_append_of_endsName {name rest : List Char}
    (continues : ∀ char ∈ name, continuesName char = true) (ends : endsName rest = true) :
    (name ++ rest).takeWhile continuesName = name ∧
      (name ++ rest).dropWhile continuesName = rest := by
  rw [List.takeWhile_append_of_pos continues, List.dropWhile_append_of_pos continues]
  cases rest with
  | nil => simp
  | cons char rest =>
      simp only [endsName, List.head?_cons, Option.all_some, Bool.not_eq_eq_eq_not,
        Bool.not_true] at ends
      simp [ends]

/-- A name is one token when no character of a name follows it. -/
theorem scan_name_append {name rest : List Char} (valid : isName name = true)
    (ends : endsName rest = true) :
    scan (name ++ rest) = (scan rest).map (.name name :: ·) := by
  cases name with
  | nil => simp [isName] at valid
  | cons first name =>
      simp only [isName, Bool.and_eq_true, List.all_eq_true] at valid
      obtain ⟨taken, dropped⟩ := takeWhile_append_of_endsName valid.2 ends
      rw [List.cons_append, scan, if_pos valid.1, taken, dropped]

theorem scan_mark_cons {char : Char} (mark : isMark char = true) (rest : List Char) :
    scan (char :: rest) = (scan rest).map (.mark char :: ·) := by
  rw [scan, if_neg (by simp [(not_of_isMark mark).1]), if_pos mark]

theorem scan_blank_cons {char : Char} (blank : isBlank char = true) (rest : List Char) :
    scan (char :: rest) = scan rest := by
  obtain ⟨noName, _, noMark⟩ := not_of_isBlank blank
  rw [scan, if_neg (by simp [noName]), if_neg (by simp [noMark]), if_pos blank]

/-- Each token stands for characters of the text: every name is one. -/
theorem isName_of_mem_scan {chars name : List Char} {tokens : List TypeToken}
    (scanned : scan chars = some tokens) (mem : .name name ∈ tokens) : isName name = true := by
  fun_induction scan chars generalizing tokens with
  | case1 => simp_all
  | case2 char chars begins ih =>
      obtain ⟨rest, restScanned, rfl⟩ := Option.map_eq_some_iff.mp scanned
      rcases List.mem_cons.mp mem with same | mem
      · cases same
        simp only [isName, begins, Bool.true_and, List.all_eq_true]
        exact fun char member => List.mem_takeWhile_imp member
      · exact ih restScanned mem
  | case3 char chars _ _ ih =>
      obtain ⟨rest, restScanned, rfl⟩ := Option.map_eq_some_iff.mp scanned
      rcases List.mem_cons.mp mem with same | mem
      · cases same
      · exact ih restScanned mem
  | case4 char chars _ _ _ ih => exact ih scanned mem
  | case5 => cases scanned

/-- A character that is neither blank nor part of a token is refused wherever it stands. -/
theorem scan_eq_none_of_mem {chars : List Char} {char : Char} (mem : char ∈ chars)
    (noStart : beginsName char = false) (noName : continuesName char = false)
    (noMark : isMark char = false) (noBlank : isBlank char = false) : scan chars = none := by
  fun_induction scan chars with
  | case1 => cases mem
  | case2 first chars begins ih =>
      have later : char ∈ chars.dropWhile continuesName := by
        rcases List.mem_cons.mp mem with rfl | mem
        · simp [noStart] at begins
        · rw [← List.takeWhile_append_dropWhile (p := continuesName) (l := chars),
            List.mem_append] at mem
          rcases mem with mem | mem
          · simp [List.mem_takeWhile_imp mem] at noName
          · exact mem
      rw [ih later, Option.map_none]
  | case3 first chars _ mark ih =>
      rcases List.mem_cons.mp mem with rfl | mem
      · simp [noMark] at mark
      · rw [ih mem, Option.map_none]
  | case4 first chars _ _ blank ih =>
      rcases List.mem_cons.mp mem with rfl | mem
      · simp [noBlank] at blank
      · exact ih mem
  | case5 => rfl

theorem scan_blanks_append {blanks : List Char} (blank : ∀ char ∈ blanks, isBlank char = true)
    (rest : List Char) : scan (blanks ++ rest) = scan rest := by
  induction blanks with
  | nil => rfl
  | cons char blanks ih =>
      obtain ⟨first, further⟩ := List.forall_mem_cons.mp blank
      rw [List.cons_append, scan_blank_cons first, ih further]

/-- Blanks at the end add no token. -/
theorem scan_append_blanks (chars : List Char) {blanks : List Char}
    (blank : ∀ char ∈ blanks, isBlank char = true) : scan (chars ++ blanks) = scan chars := by
  fun_induction scan chars with
  | case1 => simpa using scan_blanks_append blank []
  | case2 first chars begins ih =>
      have ends : endsName (chars.dropWhile continuesName ++ blanks) = true := by
        cases left : chars.dropWhile continuesName with
        | nil =>
            cases blanks with
            | nil => rfl
            | cons char blanks => simp [endsName, (not_of_isBlank (blank char List.mem_cons_self))]
        | cons char rest =>
            simpa [endsName, left] using List.head?_dropWhile_not continuesName chars
      obtain ⟨taken, dropped⟩ := takeWhile_append_of_endsName
        (fun char => List.mem_takeWhile_imp (l := chars)) ends
      rw [← List.append_assoc, List.takeWhile_append_dropWhile] at taken dropped
      rw [List.cons_append, scan, if_pos begins, taken, dropped, ih]
  | case3 first chars noName mark ih =>
      rw [List.cons_append, scan_mark_cons mark, ih]
  | case4 first chars noName noMark isBlank ih =>
      rw [List.cons_append, scan_blank_cons isBlank, ih]
  | case5 first chars noName noMark noBlank =>
      rw [List.cons_append, scan, if_neg noName, if_neg noMark, if_neg noBlank]

end TypeToken

/-! ## The tokens that write an expression -/

namespace TypeSuffix

/-- Every array has a dimension. -/
def IsProper : TypeSuffix → Prop
  | .array rank => 0 < rank
  | .nullable => True
  | .pointer => True

/-- The tokens of an array suffix of so many dimensions, up to its closing bracket. -/
def openTokens (rank : Nat) : List TypeToken :=
  .mark '[' :: List.replicate (rank - 1) (.mark ',')

def tokens : TypeSuffix → List TypeToken
  | .array rank => openTokens rank ++ [.mark ']']
  | .nullable => [.mark '?']
  | .pointer => [.mark '*']

theorem openTokens_succ {rank : Nat} (positive : 0 < rank) :
    openTokens (rank + 1) = openTokens rank ++ [.mark ','] := by
  obtain ⟨commas, rfl⟩ := Nat.exists_eq_succ_of_ne_zero positive.ne'
  simp [openTokens, List.replicate_succ']

end TypeSuffix

namespace TypeExpr

mutual

def tokens : TypeExpr → List TypeToken
  | .named name [] suffixes => .name name.toList :: suffixes.flatMap TypeSuffix.tokens
  | .named name (argument :: arguments) suffixes =>
    .name name.toList :: .mark '<' :: (tokens argument ++ furtherTokens arguments ++
      suffixes.flatMap TypeSuffix.tokens)

/-- The tokens behind the first argument, the closing bracket included. -/
def furtherTokens : List TypeExpr → List TypeToken
  | [] => [.mark '>']
  | argument :: arguments => .mark ',' :: (tokens argument ++ furtherTokens arguments)

end

/-- The names are names and the arrays have dimensions. -/
inductive WellFormed : TypeExpr → Prop where
  | named {name : String} {arguments : List TypeExpr} {suffixes : List TypeSuffix} :
      TypeToken.isName name.toList = true →
      (∀ argument ∈ arguments, WellFormed argument) →
      (∀ suffix ∈ suffixes, suffix.IsProper) →
      WellFormed (.named name arguments suffixes)

/-! ## Reading back -/

/-- Whether a type that ends where the tokens begin goes no further. -/
def endsType : List TypeToken → Bool
  | [] => true
  | .mark ',' :: _ => true
  | .mark '>' :: _ => true
  | _ => false

theorem readSuffixes_of_endsType {rest : List TypeToken} (ends : endsType rest = true) :
    readSuffixes none rest = some ([], rest) := by
  unfold endsType at ends
  split at ends
  · simp [readSuffixes]
  · simp [readSuffixes]
  · simp [readSuffixes]
  · cases ends

theorem readSuffixes_commas (rank commas : Nat) (rest : List TypeToken) :
    readSuffixes (some rank) (List.replicate commas (.mark ',') ++ .mark ']' :: rest) =
      (readSuffixes none rest).map fun (suffixes, rest) =>
        (.array (rank + commas) :: suffixes, rest) := by
  induction commas generalizing rank with
  | zero => simp [readSuffixes]
  | succ commas ih =>
      calc readSuffixes (some rank) (List.replicate (commas + 1) (.mark ',') ++ .mark ']' :: rest)
          = readSuffixes (some (rank + 1))
              (List.replicate commas (.mark ',') ++ .mark ']' :: rest) := by
            simp only [List.replicate_succ, List.cons_append, readSuffixes]
        _ = _ := by
            rw [ih]
            simp only [Nat.add_assoc, Nat.add_comm 1]

theorem readSuffixes_tokens {suffixes : List TypeSuffix} {rest : List TypeToken}
    (proper : ∀ suffix ∈ suffixes, suffix.IsProper) (ends : endsType rest = true) :
    readSuffixes none (suffixes.flatMap TypeSuffix.tokens ++ rest) = some (suffixes, rest) := by
  induction suffixes with
  | nil => exact readSuffixes_of_endsType ends
  | cons suffix suffixes ih =>
      have later := ih fun suffix member => proper suffix (List.mem_cons_of_mem _ member)
      rw [List.flatMap_cons, List.append_assoc]
      cases suffix with
      | array rank =>
          have positive : 0 < rank := proper (.array rank) List.mem_cons_self
          simp only [TypeSuffix.tokens, TypeSuffix.openTokens, List.cons_append, List.append_assoc,
            List.nil_append, readSuffixes]
          rw [readSuffixes_commas, later, Option.map_some, Nat.add_sub_cancel' positive]
      | nullable => simp [TypeSuffix.tokens, readSuffixes, later]
      | pointer => simp [TypeSuffix.tokens, readSuffixes, later]

theorem read_name {steps : Nat} {name : List Char} {rest : List TypeToken}
    (bare : ∀ behind, rest ≠ .mark '<' :: behind) :
    read (steps + 1) (.name name :: rest) =
      (readSuffixes none rest).map fun (suffixes, rest) =>
        (.named (String.ofList name) [] suffixes, rest) := by
  rw [read]
  · cases readSuffixes none rest <;> rfl
  · simpa using bare

theorem suffixTokens_ne_opening {suffixes : List TypeSuffix} {rest : List TypeToken}
    (ends : endsType rest = true) (behind : List TypeToken) :
    suffixes.flatMap TypeSuffix.tokens ++ rest ≠ .mark '<' :: behind := by
  cases suffixes with
  | nil =>
      rintro rfl
      simp [endsType] at ends
  | cons suffix suffixes => cases suffix <;> simp [TypeSuffix.tokens, TypeSuffix.openTokens]

mutual

/-- The reader takes one step for each argument and one for each list of arguments, so two steps
for each token are enough. -/
theorem read_tokens {expr : TypeExpr} (valid : WellFormed expr) (steps : Nat)
    (enough : 2 * expr.tokens.length ≤ steps) (rest : List TypeToken)
    (ends : endsType rest = true) : read steps (expr.tokens ++ rest) = some (expr, rest) := by
  match expr, valid with
  | .named name [] suffixes, .named _ _ proper =>
      obtain ⟨steps, rfl⟩ : ∃ fewer, steps = fewer + 1 :=
        Nat.exists_eq_succ_of_ne_zero (by simp [tokens] at enough; omega)
      rw [tokens, List.cons_append, read_name (suffixTokens_ne_opening ends),
        readSuffixes_tokens proper ends]
      simp
  | .named name (argument :: arguments) suffixes, .named _ within proper =>
      simp only [tokens, List.length_cons, List.length_append] at enough
      obtain ⟨steps, rfl⟩ : ∃ fewer, steps = fewer + 1 :=
        Nat.exists_eq_succ_of_ne_zero (by omega)
      have inside := readArguments_tokens (within argument List.mem_cons_self)
        (fun argument member => within argument (List.mem_cons_of_mem _ member)) steps
        (by simp only [List.length_append]; omega) (suffixes.flatMap TypeSuffix.tokens ++ rest)
      simp only [tokens, List.cons_append, List.append_assoc] at inside ⊢
      simp [read, inside, readSuffixes_tokens proper ends]

theorem readArguments_tokens {argument : TypeExpr} {arguments : List TypeExpr}
    (valid : WellFormed argument) (further : ∀ argument ∈ arguments, WellFormed argument)
    (steps : Nat) (enough : 2 * (argument.tokens ++ furtherTokens arguments).length ≤ steps)
    (rest : List TypeToken) :
    readArguments steps (argument.tokens ++ furtherTokens arguments ++ rest) =
      some (argument :: arguments, rest) := by
  match arguments with
  | [] =>
      simp only [furtherTokens, List.length_append, List.length_cons, List.length_nil] at enough
      obtain ⟨steps, rfl⟩ : ∃ fewer, steps = fewer + 1 :=
        Nat.exists_eq_succ_of_ne_zero (by omega)
      have first := read_tokens valid steps (by omega) (.mark '>' :: rest) rfl
      simp [furtherTokens, readArguments, first]
  | next :: arguments =>
      simp only [furtherTokens, List.length_append, List.length_cons] at enough
      obtain ⟨steps, rfl⟩ : ∃ fewer, steps = fewer + 1 :=
        Nat.exists_eq_succ_of_ne_zero (by omega)
      have first := read_tokens valid steps (by omega)
        (.mark ',' :: (next.tokens ++ furtherTokens arguments ++ rest)) rfl
      have later := readArguments_tokens (further next List.mem_cons_self)
        (fun argument member => further argument (List.mem_cons_of_mem _ member)) steps
        (by simp only [List.length_append]; omega) rest
      simp only [List.append_assoc] at first later
      simp [furtherTokens, readArguments, first, later]

end

/-- A text whose tokens are those of an expression is read as that expression. -/
theorem ofTokens?_tokens {expr : TypeExpr} (valid : WellFormed expr) :
    ofTokens? expr.tokens = some expr := by
  have whole := read_tokens valid (2 * expr.tokens.length + 1) (by omega) [] rfl
  rw [List.append_nil] at whole
  simp [ofTokens?, whole]

/-! ## What the reader accepts -/

theorem readSuffixes_sound {openRank : Option Nat} {tokens rest : List TypeToken}
    {suffixes : List TypeSuffix} (positive : ∀ rank, openRank = some rank → 0 < rank)
    (found : readSuffixes openRank tokens = some (suffixes, rest)) :
    (openRank.map TypeSuffix.openTokens).getD [] ++ tokens =
        suffixes.flatMap TypeSuffix.tokens ++ rest ∧
      ∀ suffix ∈ suffixes, suffix.IsProper := by
  fun_induction readSuffixes openRank tokens generalizing suffixes rest with
  | case1 behind ih =>
      obtain ⟨written, proper⟩ := ih (by simp) found
      exact ⟨by simpa [TypeSuffix.openTokens] using written, proper⟩
  | case2 behind ih =>
      obtain ⟨⟨later, _⟩, laterFound, same⟩ := Option.map_eq_some_iff.mp found
      cases same
      obtain ⟨written, proper⟩ := ih (by simp) laterFound
      exact ⟨by simpa [TypeSuffix.tokens] using written,
        List.forall_mem_cons.mpr ⟨trivial, proper⟩⟩
  | case3 behind ih =>
      obtain ⟨⟨later, _⟩, laterFound, same⟩ := Option.map_eq_some_iff.mp found
      cases same
      obtain ⟨written, proper⟩ := ih (by simp) laterFound
      exact ⟨by simpa [TypeSuffix.tokens] using written,
        List.forall_mem_cons.mpr ⟨trivial, proper⟩⟩
  | case4 tokens =>
      cases found
      simp
  | case5 rank behind ih =>
      obtain ⟨written, proper⟩ := ih (by simp) found
      have open' := TypeSuffix.openTokens_succ (positive rank rfl)
      exact ⟨by simpa [open'] using written, proper⟩
  | case6 rank behind ih =>
      obtain ⟨⟨later, _⟩, laterFound, same⟩ := Option.map_eq_some_iff.mp found
      cases same
      obtain ⟨written, proper⟩ := ih (by simp) laterFound
      exact ⟨by simpa [TypeSuffix.tokens] using written,
        List.forall_mem_cons.mpr ⟨positive rank rfl, proper⟩⟩
  | case7 => cases found

/-- The reader takes the tokens of what it gives back, and no others. -/
theorem read_sound {steps : Nat} :
    (∀ {tokens rest : List TypeToken} {expr : TypeExpr},
      (∀ name, .name name ∈ tokens → TypeToken.isName name = true) →
      read steps tokens = some (expr, rest) →
      tokens = expr.tokens ++ rest ∧ WellFormed expr) ∧
    (∀ {tokens rest : List TypeToken} {arguments : List TypeExpr},
      (∀ name, .name name ∈ tokens → TypeToken.isName name = true) →
      readArguments steps tokens = some (arguments, rest) →
      ∃ argument further, arguments = argument :: further ∧
        tokens = argument.tokens ++ furtherTokens further ++ rest ∧
        ∀ argument ∈ arguments, WellFormed argument) := by
  -- The two readers call each other with one step less, so they are shown sound together.
  induction steps with
  | zero =>
      constructor
      · intro tokens rest expr _ found
        simp [read] at found
      · intro tokens rest arguments _ found
        simp [readArguments] at found
  | succ steps ih =>
      obtain ⟨readIH, argumentsIH⟩ := ih
      constructor
      · intro tokens rest expr names found
        unfold read at found
        split at found
        · cases found
        · rename_i fewer name behind same
          cases same
          obtain ⟨⟨arguments, middle⟩, argumentsFound, further⟩ := Option.bind_eq_some_iff.mp found
          obtain ⟨⟨suffixes, last⟩, suffixesFound, made⟩ := Option.bind_eq_some_iff.mp further
          cases made
          obtain ⟨argument, others, rfl, rfl, valid⟩ :=
            argumentsIH (fun name member => names name (by simp [member])) argumentsFound
          obtain ⟨written, proper⟩ := readSuffixes_sound (by simp) suffixesFound
          simp only [Option.map_none, Option.getD_none, List.nil_append] at written
          refine ⟨?_, .named (by simpa using names name List.mem_cons_self) valid proper⟩
          simp only [tokens, String.toList_ofList, List.cons_append, List.append_assoc, written]
        · rename_i fewer name behind _ same
          cases same
          obtain ⟨⟨suffixes, last⟩, suffixesFound, made⟩ := Option.bind_eq_some_iff.mp found
          cases made
          obtain ⟨written, proper⟩ := readSuffixes_sound (by simp) suffixesFound
          simp only [Option.map_none, Option.getD_none, List.nil_append] at written
          refine ⟨?_, .named (by simpa using names name List.mem_cons_self) (by simp) proper⟩
          simp only [tokens, String.toList_ofList, List.cons_append, written]
        · cases found
      · intro tokens rest arguments names found
        unfold readArguments at found
        obtain ⟨⟨argument, middle⟩, argumentFound, further⟩ := Option.bind_eq_some_iff.mp found
        obtain ⟨rfl, valid⟩ := readIH names argumentFound
        dsimp only at further
        split at further
        · rename_i behind
          obtain ⟨⟨others, last⟩, othersFound, made⟩ := Option.bind_eq_some_iff.mp further
          cases made
          obtain ⟨next, later, rfl, rfl, othersValid⟩ :=
            argumentsIH (fun name member => names name (by simp [member])) othersFound
          exact ⟨argument, _, rfl, by simp [furtherTokens],
            List.forall_mem_cons.mpr ⟨valid, othersValid⟩⟩
        · rename_i behind
          cases further
          exact ⟨argument, [], rfl, by simp [furtherTokens], by simpa using valid⟩
        · cases further

/-- An expression that a text writes is well formed, and its tokens are those of the text. -/
theorem ofText?_sound {text : String} {expr : TypeExpr} (read : ofText? text = some expr) :
    TypeToken.scan text.toList = some expr.tokens ∧ WellFormed expr := by
  obtain ⟨tokens, scanned, found⟩ := Option.bind_eq_some_iff.mp read
  unfold ofTokens? at found
  split at found
  · rename_i readAll
    cases found
    obtain ⟨rfl, valid⟩ := read_sound.1 (fun name => TypeToken.isName_of_mem_scan scanned) readAll
    exact ⟨by simpa using scanned, valid⟩
  · cases found

end TypeExpr

end DocPreview

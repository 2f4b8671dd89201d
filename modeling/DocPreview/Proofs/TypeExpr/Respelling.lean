import DocPreview.Proofs.Text.Trim
import DocPreview.Proofs.TypeExpr.Tokens
import DocPreview.TypeExpr.Spelling

/-!
# Respelling a type

Spelling a type expression changes names and nothing else, and each spelling of an intrinsic type
names the same type. So the `csharp` spelling, which can always be read back, says as much as the
text that it was made of. The `visualBasic` spelling cannot be read back once it has a
parenthesis, and then it is shown as it stands.
-/

set_option autoImplicit false

namespace DocPreview

open TypeToken (scan isName endsName)

/-! ## Intrinsic names -/

namespace Intrinsic

theorem isName_spelling (dialect : Dialect) {intrinsic : Intrinsic} (member : intrinsic ∈ table) :
    isName (intrinsic.spelling dialect).toList = true := by
  have all : ∀ intrinsic ∈ table, isName (intrinsic.spelling dialect).toList = true := by
    cases dialect <;> decide
  exact all intrinsic member

theorem typeName_spelling (dialect inner : Dialect) {intrinsic : Intrinsic}
    (member : intrinsic ∈ table) :
    dialect.typeName (intrinsic.spelling inner) = intrinsic.spelling dialect := by
  have all : ∀ intrinsic ∈ table,
      dialect.typeName (intrinsic.spelling inner) = intrinsic.spelling dialect := by
    cases dialect <;> cases inner <;> decide
  exact all intrinsic member

end Intrinsic

namespace Dialect

theorem isName_typeName (dialect : Dialect) {name : String} (valid : isName name.toList = true) :
    isName (dialect.typeName name).toList = true := by
  unfold typeName
  split
  · rename_i intrinsic found
    exact Intrinsic.isName_spelling dialect (List.mem_of_find?_eq_some found)
  · exact valid

/-- A name may be respelled on the way. -/
theorem typeName_typeName (dialect inner : Dialect) (name : String) :
    dialect.typeName (inner.typeName name) = dialect.typeName name := by
  cases found : Intrinsic.ofName? name with
  | none => simp only [typeName, found]
  | some intrinsic =>
      have member := List.mem_of_find?_eq_some found
      simpa only [typeName, found] using Intrinsic.typeName_spelling dialect inner member

end Dialect

/-! ## Respelled expressions -/

namespace TypeExpr

mutual

/-- The expression with its intrinsic names in the spelling of a dialect. -/
def respelled (dialect : Dialect) : TypeExpr → TypeExpr
  | .named name [] suffixes => .named (dialect.typeName name) [] suffixes
  | .named name (argument :: arguments) suffixes =>
    .named name (respelled dialect argument :: respelledAll dialect arguments) suffixes

def respelledAll (dialect : Dialect) : List TypeExpr → List TypeExpr
  | [] => []
  | argument :: arguments => respelled dialect argument :: respelledAll dialect arguments

end

mutual

theorem spelling_respelled (dialect inner : Dialect) : ∀ expr : TypeExpr,
    (expr.respelled inner).spelling dialect = expr.spelling dialect
  | .named name [] suffixes => by
      simp only [respelled, spelling, Dialect.typeName_typeName]
  | .named name (argument :: arguments) suffixes => by
      simp only [respelled, spelling, spelling_respelled dialect inner argument,
        furtherSpelling_respelledAll dialect inner arguments]

theorem furtherSpelling_respelledAll (dialect inner : Dialect) : ∀ arguments : List TypeExpr,
    furtherSpelling dialect (respelledAll inner arguments) = furtherSpelling dialect arguments
  | [] => by
      simp only [respelledAll]
  | argument :: arguments => by
      simp only [respelledAll, furtherSpelling, spelling_respelled dialect inner argument,
        furtherSpelling_respelledAll dialect inner arguments]

end

theorem mem_respelledAll {dialect : Dialect} {arguments : List TypeExpr} {expr : TypeExpr} :
    expr ∈ respelledAll dialect arguments ↔
      ∃ argument ∈ arguments, argument.respelled dialect = expr := by
  induction arguments with
  | nil => simp [respelledAll]
  | cons argument arguments ih => simp [respelledAll, ih, eq_comm]

theorem WellFormed.respelled {expr : TypeExpr} (valid : WellFormed expr) (dialect : Dialect) :
    WellFormed (expr.respelled dialect) := by
  induction valid with
  | @named name arguments suffixes isName _ proper ih =>
      cases arguments with
      | nil => exact .named (dialect.isName_typeName isName) (by simp) proper
      | cons argument arguments =>
          refine .named isName ?_ proper
          intro expr member
          obtain ⟨original, originalMember, rfl⟩ :=
            mem_respelledAll.mp
              (show expr ∈ respelledAll dialect (argument :: arguments) from member)
          exact ih original originalMember

/-! ## Scanning a spelling -/

theorem scan_marks_append {marks : List Char} (valid : ∀ char ∈ marks, TypeToken.isMark char = true)
    (rest : List Char) :
    scan (marks ++ rest) = (scan rest).map (marks.map TypeToken.mark ++ ·) := by
  induction marks with
  | nil => simp
  | cons char marks ih =>
      obtain ⟨mark, further⟩ := List.forall_mem_cons.mp valid
      rw [List.cons_append, TypeToken.scan_mark_cons mark, ih further, Option.map_map]
      rfl

/-- A suffix in the `csharp` spelling has one mark for each of its tokens. -/
theorem suffix_marks (suffix : TypeSuffix) :
    (∀ char ∈ (suffix.spelling .csharp).toList, TypeToken.isMark char = true) ∧
      (suffix.spelling .csharp).toList.map TypeToken.mark = suffix.tokens := by
  cases suffix with
  | array rank =>
      constructor
      · intro char member
        simp only [TypeSuffix.spelling, String.toList_append, String.toList_ofList,
          List.mem_append, List.mem_replicate] at member
        rcases member with (member | ⟨_, rfl⟩) | member
        · rw [List.mem_singleton.mp member]; decide
        · decide
        · rw [List.mem_singleton.mp member]; decide
      · simp [TypeSuffix.spelling, TypeSuffix.tokens, TypeSuffix.openTokens]
  | nullable => exact ⟨List.forall_mem_singleton.mpr rfl, rfl⟩
  | pointer => exact ⟨List.forall_mem_singleton.mpr rfl, rfl⟩

theorem suffixes_marks (suffixes : List TypeSuffix) :
    (∀ char ∈ (suffixesSpelling .csharp suffixes).toList, TypeToken.isMark char = true) ∧
      (suffixesSpelling .csharp suffixes).toList.map TypeToken.mark =
        suffixes.flatMap TypeSuffix.tokens := by
  simp only [suffixesSpelling, String.toList_join, List.flatMap_map, List.mem_flatMap,
    List.map_flatMap, (suffix_marks _).2, and_true]
  rintro char ⟨suffix, _, member⟩
  exact (suffix_marks suffix).1 char member

theorem scan_suffixesSpelling (suffixes : List TypeSuffix) (rest : List Char) :
    scan ((suffixesSpelling .csharp suffixes).toList ++ rest) =
      (scan rest).map (suffixes.flatMap TypeSuffix.tokens ++ ·) := by
  obtain ⟨marks, written⟩ := suffixes_marks suffixes
  rw [scan_marks_append marks, written]

theorem endsName_of_isMark {char : Char} (mark : TypeToken.isMark char = true)
    (rest : List Char) : endsName (char :: rest) = true := by
  simp [endsName, (TypeToken.not_of_isMark mark).2.1]

/-- A type without arguments. What stands behind its name does not belong to the name. -/
theorem scan_bare {name : String} (valid : isName name.toList = true) (suffixes : List TypeSuffix)
    {rest : List Char} (ends : endsName rest = true) :
    scan ((name ++ suffixesSpelling .csharp suffixes).toList ++ rest) =
      (scan rest).map (.name name.toList :: suffixes.flatMap TypeSuffix.tokens ++ ·) := by
  have behind : endsName ((suffixesSpelling .csharp suffixes).toList ++ rest) = true := by
    have marks := (suffixes_marks suffixes).1
    cases text : (suffixesSpelling .csharp suffixes).toList with
    | nil => exact ends
    | cons char chars =>
        rw [text] at marks
        exact endsName_of_isMark (marks char List.mem_cons_self) _
  rw [String.toList_append, List.append_assoc, TypeToken.scan_name_append valid behind,
    scan_suffixesSpelling, Option.map_map]
  rfl

theorem scan_furtherSpelling {arguments : List TypeExpr}
    (inside : ∀ argument ∈ arguments, ∀ {rest}, endsName rest = true →
      scan ((argument.spelling .csharp).toList ++ rest) =
        (scan rest).map ((argument.respelled .csharp).tokens ++ ·)) (rest : List Char) :
    endsName ((furtherSpelling .csharp arguments).toList ++ '>' :: rest) = true ∧
      scan ((furtherSpelling .csharp arguments).toList ++ '>' :: rest) =
        (scan rest).map (furtherTokens (respelledAll .csharp arguments) ++ ·) := by
  induction arguments with
  | nil => exact ⟨endsName_of_isMark (by decide) rest, TypeToken.scan_mark_cons (by decide) rest⟩
  | cons argument arguments ih =>
      obtain ⟨first, later⟩ := List.forall_mem_cons.mp inside
      obtain ⟨ends, scanned⟩ := ih later
      have text : (furtherSpelling .csharp (argument :: arguments)).toList ++ '>' :: rest =
          ',' :: ' ' :: ((argument.spelling .csharp).toList ++
            ((furtherSpelling .csharp arguments).toList ++ '>' :: rest)) := by
        simp [furtherSpelling]
      rw [text]
      refine ⟨endsName_of_isMark (by decide) _, ?_⟩
      rw [TypeToken.scan_mark_cons (by decide), TypeToken.scan_blank_cons (by decide), first ends,
        scanned, Option.map_map, Option.map_map]
      simp [Function.comp_def, respelledAll, furtherTokens]

/-- The `csharp` spelling is scanned into the tokens of the respelled expression. -/
theorem scan_spelling {expr : TypeExpr} (valid : WellFormed expr) {rest : List Char}
    (ends : endsName rest = true) :
    scan ((expr.spelling .csharp).toList ++ rest) =
      (scan rest).map ((expr.respelled .csharp).tokens ++ ·) := by
  induction valid generalizing rest with
  | @named name arguments suffixes isName _ _ ih =>
      cases arguments with
      | nil => exact scan_bare (Dialect.isName_typeName .csharp isName) suffixes ends
      | cons argument arguments =>
          obtain ⟨first, further⟩ := List.forall_mem_cons.mp ih
          obtain ⟨behind, scanned⟩ := scan_furtherSpelling further
            ((suffixesSpelling .csharp suffixes).toList ++ rest)
          have text : ((TypeExpr.named name (argument :: arguments) suffixes).spelling
              .csharp).toList ++ rest =
              name.toList ++ '<' :: ((argument.spelling .csharp).toList ++
                ((furtherSpelling .csharp arguments).toList ++
                  '>' :: ((suffixesSpelling .csharp suffixes).toList ++ rest))) := by
            simp [spelling, argumentsOpening, argumentsClosing]
          rw [text, TypeToken.scan_name_append isName (endsName_of_isMark (by decide) _),
            TypeToken.scan_mark_cons (by decide), first behind, scanned, scan_suffixesSpelling]
          simp [Option.map_map, Function.comp_def, respelled, tokens]

/-- The `csharp` spelling is read back as the respelled expression. -/
theorem ofText?_spelling {expr : TypeExpr} (valid : WellFormed expr) :
    ofText? (expr.spelling .csharp) = some (expr.respelled .csharp) := by
  have scanned := scan_spelling valid (show endsName [] = true from rfl)
  rw [List.append_nil, TypeToken.scan_nil, Option.map_some, List.append_nil] at scanned
  rw [ofText?, scanned, Option.bind_some, ofTokens?_tokens (valid.respelled .csharp)]

/-! ## The other dialect -/

/-- Only a type with neither arguments nor arrays is spelled without parentheses, and then the
dialects differ in the name alone. -/
theorem spelling_visualBasic_cases (expr : TypeExpr) :
    '(' ∈ (expr.spelling .visualBasic).toList ∨
      ∃ name suffixes, expr = .named name [] suffixes ∧
        suffixesSpelling .visualBasic suffixes = suffixesSpelling .csharp suffixes := by
  obtain ⟨name, arguments, suffixes⟩ := expr
  cases arguments with
  | cons argument arguments =>
      left
      simp [spelling, argumentsOpening]
  | nil => 
      by_cases arrays : ∃ rank, TypeSuffix.array rank ∈ suffixes
      · obtain ⟨rank, member⟩ := arrays
        left
        simp only [spelling, suffixesSpelling, String.toList_append, String.toList_join,
          List.flatMap_map, List.mem_append, List.mem_flatMap]
        exact .inr ⟨.array rank, member, by simp [TypeSuffix.spelling]⟩
      · right
        refine ⟨name, suffixes, rfl, congrArg String.join (List.map_congr_left ?_)⟩
        intro suffix member
        cases suffix with
        | array rank => exact absurd ⟨rank, member⟩ arrays
        | nullable => rfl
        | pointer => rfl

theorem suffixesSpelling_shown (dialect : Dialect) (suffixes : List TypeSuffix) :
    ∀ char ∈ (suffixesSpelling dialect suffixes).toList, isBlank char = false := by
  have marks : ∀ suffix : TypeSuffix, ∀ char ∈ (suffix.spelling dialect).toList,
      char ∈ ['[', ']', '(', ')', ',', '?', '*'] := by
    intro suffix char
    cases suffix <;> cases dialect <;> simp [TypeSuffix.spelling] <;> tauto
  have shown : ∀ char ∈ ['[', ']', '(', ')', ',', '?', '*'], isBlank char = false := by
    simp only [List.forall_mem_cons, List.not_mem_nil, false_implies, implies_true]
    decide
  intro char member
  simp only [suffixesSpelling, String.toList_join, List.flatMap_map, List.mem_flatMap] at member
  obtain ⟨suffix, _, member⟩ := member
  exact shown char (marks suffix char member)

theorem name_shown {name : List Char} (valid : isName name = true) :
    ∀ char ∈ name, isBlank char = false := by
  intro char member
  cases name with
  | nil => cases member
  | cons first name =>
      simp only [isName, Bool.and_eq_true, List.all_eq_true] at valid
      rcases List.mem_cons.mp member with rfl | member
      · exact TypeToken.isBlank_of_beginsName valid.1
      · exact TypeToken.isBlank_of_continuesName (valid.2 char member)

theorem isTrimmed_spelling {expr : TypeExpr} (valid : WellFormed expr) :
    Text.IsTrimmed (expr.spelling .visualBasic).toList := by
  cases valid with
  | @named name arguments suffixes isName _ _ =>
      cases arguments with
      | nil =>
          apply Text.isTrimmed_of_shown
          intro char member
          rw [spelling, String.toList_append, List.mem_append] at member
          rcases member with member | member
          · exact name_shown (Dialect.isName_typeName .visualBasic isName) char member
          · exact suffixesSpelling_shown .visualBasic suffixes char member
      | cons argument arguments =>
          have shown := name_shown isName
          have closing : ∀ char ∈ ')' :: (suffixesSpelling .visualBasic suffixes).toList,
              isBlank char = false :=
            List.forall_mem_cons.mpr ⟨by decide, suffixesSpelling_shown .visualBasic suffixes⟩
          cases chars : name.toList with
          | nil => simp [chars, TypeToken.isName] at isName
          | cons first rest =>
              have text : ((TypeExpr.named name (argument :: arguments) suffixes).spelling
                  .visualBasic).toList =
                  first :: (rest ++ ("(Of " ++ argument.spelling .visualBasic ++
                    furtherSpelling .visualBasic arguments).toList) ++
                    ')' :: (suffixesSpelling .visualBasic suffixes).toList := by
                simp [spelling, argumentsOpening, argumentsClosing, chars]
              rw [text]
              exact Text.isTrimmed_append (shown first (by simp [chars])) closing
                (List.cons_ne_nil _ _)

/-- What the `visualBasic` spelling is read back as, if it can be read at all. -/
theorem ofText?_spelling_visualBasic {expr : TypeExpr} (valid : WellFormed expr) :
    ofText? (expr.spelling .visualBasic) = none ∨
      ofText? (expr.spelling .visualBasic) = some (expr.respelled .visualBasic) := by
  rcases spelling_visualBasic_cases expr with parenthesis | ⟨name, suffixes, rfl, same⟩
  · left
    rw [ofText?, TypeToken.scan_eq_none_of_mem parenthesis (by decide) (by decide) (by decide)
      (by decide), Option.bind_none]
  · right
    have within := valid.respelled .visualBasic
    cases valid with
    | named isName _ _ =>
        have scanned := scan_bare (Dialect.isName_typeName .visualBasic isName) suffixes
          (show endsName [] = true from rfl)
        rw [List.append_nil, TypeToken.scan_nil, Option.map_some, List.append_nil] at scanned
        rw [ofText?, spelling, same, scanned, Option.bind_some]
        exact ofTokens?_tokens within

end TypeExpr

theorem ofText?_trimmed (text : String) :
    TypeExpr.ofText? (trimmed text) = TypeExpr.ofText? text := by
  obtain ⟨front, back, split, frontBlank, backBlank⟩ :=
    Text.exists_blanks_around_trim text.toList
  have scanned : scan (Text.trim text.toList) = scan text.toList := by
    conv_rhs => rw [split, List.append_assoc]
    rw [TypeToken.scan_blanks_append frontBlank, TypeToken.scan_append_blanks _ backBlank]
  rw [TypeExpr.ofText?, TypeExpr.ofText?, trimmed, String.toList_ofList, scanned]

/-- A `csharp` spelling has the same spellings as the text that it was made of, and respelling in
`visualBasic` twice is respelling once. -/
theorem displayType_displayType (type : String) :
    (∀ dialect : Dialect,
      dialect.displayType (Dialect.csharp.displayType type) = dialect.displayType type) ∧
    Dialect.visualBasic.displayType (Dialect.visualBasic.displayType type) =
      Dialect.visualBasic.displayType type := by
  cases read : TypeExpr.ofText? type with
  | none =>
      have again : TypeExpr.ofText? (trimmed type) = none := by rw [ofText?_trimmed, read]
      simp only [Dialect.displayType, read, again, trimmed_trimmed, implies_true, and_self]
  | some expr =>
      obtain ⟨_, valid⟩ := TypeExpr.ofText?_sound read
      constructor
      · intro dialect
        simp only [Dialect.displayType, read, TypeExpr.ofText?_spelling valid,
          TypeExpr.spelling_respelled]
      · rcases TypeExpr.ofText?_spelling_visualBasic valid with refused | again
        · simp only [Dialect.displayType, read, refused]
          exact trimmed_of_isTrimmed (TypeExpr.isTrimmed_spelling valid)
        · simp only [Dialect.displayType, read, again, TypeExpr.spelling_respelled]

end DocPreview

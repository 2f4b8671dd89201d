import DocPreview.Comment.Parse
import DocPreview.Proofs.Text.Lines
import Mathlib.Data.List.Infix
import Mathlib.Data.Prod.Lex
import Mathlib.Data.String.Basic
import Mathlib.Order.Bounds.Basic

/-!
# Where the reading of a comment stopped

An offset counts bytes, a place counts lines and characters. The place of an offset is that of the
last boundary between characters that is not behind it, and places of later boundaries are later.
-/

set_option autoImplicit false

namespace DocPreview.Comment

/-- A byte offset at which a character of the text begins, or at which the text ends. -/
def IsBoundary (text : String) (offset : Nat) : Prop :=
  (⟨offset⟩ : String.Pos.Raw).IsValid text

/-- Line and column of a byte offset, both counted from one. -/
def placeOf (text : String) (offset : Nat) : Nat × Nat :=
  lineColumn (takeBytes offset text.toList)

/-- The characters in front of a line and a column, both counted from one; none where the text does
not reach. -/
def inFront? (chars : List Char) : Nat × Nat → Option (List Char)
  | (line + 1, column + 1) =>
    let segments := chars.splitOn '\n'
    segments[line]?.bind fun segment =>
      if column ≤ segment.length then
        some ((segments.take line).flatMap (· ++ ['\n']) ++ segment.take column)
      else none
  | _ => none

def offsetOf? (text : String) (place : Nat × Nat) : Option Nat :=
  (inFront? text.toList place).map String.utf8Len

/-! ## Bytes -/

theorem isBoundary_iff {text : String} {offset : Nat} :
    IsBoundary text offset ↔ ∃ front, front <+: text.toList ∧ String.utf8Len front = offset := by
  rw [IsBoundary, String.Pos.Raw.isValid_iff_exists_append]
  constructor
  · intro valid
    obtain ⟨front, back, split, ends⟩ := valid
    refine ⟨front.toList, ⟨back.toList, ?_⟩, ?_⟩
    · rw [split, String.toList_append]
    · rw [String.utf8Len_toList]
      exact (congrArg String.Pos.Raw.byteIdx ends).symm
  · intro begun
    obtain ⟨front, ⟨back, split⟩, size⟩ := begun
    refine ⟨String.ofList front, String.ofList back, ?_, ?_⟩
    · rw [← String.ofList_append, split, String.ofList_toList]
    · rw [← size, ← String.utf8ByteSize_ofList]
      rfl

theorem takeBytes_isPrefix (size : Nat) (chars : List Char) : takeBytes size chars <+: chars := by
  induction chars generalizing size with
  | nil => exact List.prefix_refl _
  | cons char chars ih =>
      rw [takeBytes]
      split
      · exact (List.prefix_cons_inj char).mpr (ih _)
      · exact List.nil_prefix

theorem utf8Len_takeBytes_le (size : Nat) (chars : List Char) :
    String.utf8Len (takeBytes size chars) ≤ size := by
  induction chars generalizing size with
  | nil => exact Nat.zero_le _
  | cons char chars ih =>
      rw [takeBytes]
      split
      · rename_i fits
        have rest := ih (size - char.utf8Size)
        rw [String.utf8Len_cons]
        omega
      · exact Nat.zero_le _

/-- All that fits is taken. -/
theorem isPrefix_takeBytes {size : Nat} {front chars : List Char} (starts : front <+: chars)
    (fits : String.utf8Len front ≤ size) : front <+: takeBytes size chars := by
  induction front generalizing size chars with
  | nil => exact List.nil_prefix
  | cons char front ih =>
      obtain ⟨back, rfl⟩ := starts
      rw [String.utf8Len_cons] at fits
      have first : char.utf8Size ≤ size := by omega
      rw [List.cons_append, takeBytes, if_pos first]
      exact (List.prefix_cons_inj char).mpr (ih (List.prefix_append _ _) (by omega))

theorem utf8Len_le_of_isPrefix {front chars : List Char} (starts : front <+: chars) :
    String.utf8Len front ≤ String.utf8Len chars := by
  obtain ⟨back, rfl⟩ := starts
  rw [String.utf8Len_append]
  exact Nat.le_add_right _ _

theorem isGreatest_utf8Len_takeBytes (text : String) (offset : Nat) :
    IsGreatest {boundary | IsBoundary text boundary ∧ boundary ≤ min offset text.utf8ByteSize}
      (String.utf8Len (takeBytes offset text.toList)) := by
  have starts := takeBytes_isPrefix offset text.toList
  constructor
  · refine ⟨isBoundary_iff.mpr ⟨_, starts, rfl⟩, le_min (utf8Len_takeBytes_le _ _) ?_⟩
    rw [← String.utf8Len_toList]
    exact utf8Len_le_of_isPrefix starts
  · intro boundary candidate
    obtain ⟨valid, within⟩ := candidate
    obtain ⟨front, begins, rfl⟩ := isBoundary_iff.mp valid
    exact utf8Len_le_of_isPrefix (isPrefix_takeBytes begins (within.trans (min_le_left _ _)))

theorem takeBytes_utf8Len {front chars : List Char} (starts : front <+: chars) :
    takeBytes (String.utf8Len front) chars = front := by
  obtain ⟨more, taken⟩ := isPrefix_takeBytes starts (Nat.le_refl _)
  have size := utf8Len_takeBytes_le (String.utf8Len front) chars
  rw [← taken, String.utf8Len_append] at size
  cases more with
  | nil => rw [← taken, List.append_nil]
  | cons char more =>
      -- A character taken behind the front would need bytes of its own.
      have positive := char.utf8Size_pos
      rw [String.utf8Len_cons] at size
      omega

theorem isPrefix_of_utf8Len_le {front longer chars : List Char} (starts : front <+: chars)
    (longerStarts : longer <+: chars) (le : String.utf8Len front ≤ String.utf8Len longer) :
    front <+: longer := by
  rw [← takeBytes_utf8Len longerStarts]
  exact isPrefix_takeBytes starts le

/-! ## Lines and columns -/

/-- A line feed leads to the next line, any other character to the next column. -/
theorem lineColumn_append_singleton (before : List Char) (char : Char) :
    lineColumn (before ++ [char]) =
      if char = '\n' then ((lineColumn before).1 + 1, 1)
      else ((lineColumn before).1, (lineColumn before).2 + 1) := by
  by_cases feed : char = '\n'
  · simp [lineColumn, lastLine, feed]
  · simp [lineColumn, lastLine, feed]

theorem lineColumn_lt_append_singleton (before : List Char) (char : Char) :
    toLex (lineColumn before) < toLex (lineColumn (before ++ [char])) := by
  rw [lineColumn_append_singleton, Prod.Lex.toLex_lt_toLex]
  split
  · exact .inl (Nat.lt_succ_self _)
  · exact .inr ⟨rfl, Nat.lt_succ_self _⟩

theorem lineColumn_lt_append {more : List Char} (nonempty : more ≠ []) (before : List Char) :
    toLex (lineColumn before) < toLex (lineColumn (before ++ more)) := by
  induction more using List.reverseRecOn with
  | nil => exact absurd rfl nonempty
  | append_singleton more char ih =>
      have step := lineColumn_lt_append_singleton (before ++ more) char
      rw [List.append_assoc] at step
      by_cases first : more = []
      · subst first
        rwa [List.append_nil] at step
      · exact (ih first).trans step

theorem placeOf_strictMonoOn (text : String) :
    StrictMonoOn (fun offset => toLex (placeOf text offset)) {offset | IsBoundary text offset} := by
  intro first firstValid second secondValid less
  obtain ⟨front, starts, rfl⟩ := isBoundary_iff.mp firstValid
  obtain ⟨longer, longerStarts, rfl⟩ := isBoundary_iff.mp secondValid
  -- The characters in front of the earlier boundary begin those in front of the later one.
  obtain ⟨more, rfl⟩ := isPrefix_of_utf8Len_le starts longerStarts less.le
  have nonempty : more ≠ [] := by
    intro same
    subst same
    rw [List.append_nil] at less
    exact Nat.lt_irrefl _ less
  simp only [placeOf, takeBytes_utf8Len starts, takeBytes_utf8Len longerStarts]
  exact lineColumn_lt_append nonempty front

/-! ## Going to a place -/

theorem lineColumn_of_no_feed {line : List Char} (whole : '\n' ∉ line) :
    lineColumn line = (1, line.length + 1) := by
  induction line using List.reverseRecOn with
  | nil => rfl
  | append_singleton line char ih =>
      rw [List.mem_append, List.mem_singleton, not_or] at whole
      rw [lineColumn_append_singleton, if_neg (Ne.symm whole.2), ih whole.1, List.length_append]
      rfl

theorem lineColumn_append_feed {line : List Char} (whole : '\n' ∉ line) (rest : List Char) :
    lineColumn (line ++ '\n' :: rest) = ((lineColumn rest).1 + 1, (lineColumn rest).2) := by
  induction rest using List.reverseRecOn with
  | nil =>
      rw [lineColumn_append_singleton, lineColumn_of_no_feed whole]
      rfl
  | append_singleton rest char ih =>
      rw [← List.cons_append, ← List.append_assoc, lineColumn_append_singleton,
        lineColumn_append_singleton, ih]
      split
      · rfl
      · rfl

theorem exists_splitOn_append {line : List Char} (whole : '\n' ∉ line) (back : List Char) :
    ∃ first rest, (line ++ back).splitOn '\n' = (line ++ first) :: rest := by
  by_cases broken : '\n' ∈ back
  · obtain ⟨first, rest, rfl, unbroken⟩ := Text.exists_feed_split broken
    refine ⟨first, rest.splitOn '\n', ?_⟩
    rw [← List.append_assoc, List.splitOn_append_cons_self_of_not_mem]
    rw [List.mem_append]
    exact not_or.mpr ⟨whole, unbroken⟩
  · refine ⟨back, [], List.splitOn_eq_singleton ?_⟩
    rw [List.mem_append]
    exact not_or.mpr ⟨whole, broken⟩

/-- Going to the place behind the first characters of a text leads behind these characters. By
induction on the line feeds among them. -/
theorem inFront?_lineColumn (front back : List Char) :
    inFront? (front ++ back) (lineColumn front) = some front := by
  induction front using Text.feed_induction with
  | last line whole =>
      obtain ⟨first, rest, split⟩ := exists_splitOn_append whole back
      simp [lineColumn_of_no_feed whole, inFront?, split]
  | feed line rest whole ih =>
      rw [lineColumn_append_feed whole]
      rw [lineColumn] at ih ⊢
      simp only [inFront?, Option.bind_eq_some_iff] at ih ⊢
      obtain ⟨segment, found, taken⟩ := ih
      rw [List.append_assoc, List.cons_append, List.splitOn_append_cons_self_of_not_mem whole]
      refine ⟨segment, found, ?_⟩
      split at taken
      · rename_i reaches
        rw [if_pos reaches, List.take_succ_cons, List.flatMap_cons, List.append_assoc,
          Option.some.inj taken, List.append_assoc]
        rfl
      · cases taken

/-- The place is within the text, and going there leads to the last boundary that is not behind the
offset or the end of the text. -/
structure IsLocated (text : String) (offset line column : Nat) : Prop where
  line_pos : 1 ≤ line
  line_le : line ≤ text.toList.count '\n' + 1
  column_pos : 1 ≤ column
  column_le : ∃ segment, (text.toList.splitOn '\n')[line - 1]? = some segment ∧
    column ≤ segment.length + 1
  reaches : ∃ reached, offsetOf? text (line, column) = some reached ∧
    IsGreatest {boundary | IsBoundary text boundary ∧ boundary ≤ min offset text.utf8ByteSize}
      reached

theorem exists_segment_of_inFront? {chars front : List Char} {line column : Nat}
    (found : inFront? chars (line, column) = some front) :
    ∃ segment, (chars.splitOn '\n')[line - 1]? = some segment ∧ column ≤ segment.length + 1 := by
  unfold inFront? at found
  split at found
  · rename_i place line column same
    obtain ⟨rfl, rfl⟩ := Prod.mk.inj same
    obtain ⟨segment, taken, reached⟩ := Option.bind_eq_some_iff.mp found
    refine ⟨segment, taken, ?_⟩
    split at reached
    · rename_i reaches
      exact Nat.succ_le_succ reaches
    · cases reached
  · cases found

theorem placeOf_isLocated (text : String) (offset : Nat) :
    IsLocated text offset (placeOf text offset).1 (placeOf text offset).2 := by
  have starts := takeBytes_isPrefix offset text.toList
  have feeds := starts.sublist.count_le '\n'
  obtain ⟨back, split⟩ := starts
  have found := inFront?_lineColumn (takeBytes offset text.toList) back
  rw [split] at found
  refine ⟨Nat.succ_pos _, Nat.succ_le_succ feeds, Nat.succ_pos _,
    exists_segment_of_inFront? found, String.utf8Len (takeBytes offset text.toList), ?_,
    isGreatest_utf8Len_takeBytes text offset⟩
  exact congrArg (Option.map String.utf8Len) found

end DocPreview.Comment

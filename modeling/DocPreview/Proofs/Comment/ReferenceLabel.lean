import DocPreview.Comment.CodeReference
import DocPreview.Proofs.Text.Lines
import DocPreview.Proofs.Text.Trim
import DocPreview.Proofs.TypeExpr.Tokens

/-!
# The label of a code reference

A code reference is written from a letter, a path of names and the parameters. Its label is read off
the path alone: whatever the parameters hold, they begin behind the first parenthesis, and neither
a letter nor a generic arity is taken for a part of a name.
-/

set_option autoImplicit false

namespace DocPreview.CodeReference

/-- A name on a path, with the generic arity behind it. -/
structure Segment where
  name : String
  /-- Nothing, or a text that begins with a backquote. -/
  arity : String := ""
  name_ne_empty : name ≠ ""
  name_plain : ∀ char ∈ name.toList, char ∉ ['.', '(', '\x60', ':']
  arity_marked : ∀ char ∈ arity.toList.head?, char = '\x60'
  arity_plain : ∀ char ∈ arity.toList, char ∉ ['.', '(']

structure Parts where
  kind? : Option Char
  /-- The names before the last one. -/
  owners : List Segment
  last : Segment
  /-- What stands behind the opening parenthesis, if there is one. -/
  parameters? : Option String
  kind_letter : ∀ letter ∈ kind?, letter.isAlpha

def Segment.chars (segment : Segment) : List Char :=
  segment.name.toList ++ segment.arity.toList

namespace Parts

def segments (parts : Parts) : List Segment :=
  parts.owners ++ [parts.last]

def pathChars (parts : Parts) : List Char :=
  List.intercalate ['.'] (parts.segments.map Segment.chars)

def parameterChars (parts : Parts) : List Char :=
  match parts.parameters? with
  | some parameters => '(' :: parameters.toList
  | none => []

def text (parts : Parts) : String :=
  String.ofList
    ((match parts.kind? with
      | some letter => [letter, ':']
      | none => []) ++
      (parts.pathChars ++ parts.parameterChars))

/-- The last name, and for a member that of its owner before it. -/
def shortName (parts : Parts) : String :=
  if parts.kind? ∈ [some 'M', some 'P', some 'F', some 'E'] then
    match parts.owners.getLast? with
    | some owner => owner.name ++ "." ++ parts.last.name
    | none => parts.last.name
  else parts.last.name

end Parts

/-! ## Segments -/

namespace Segment

variable (segment : Segment)

theorem exists_name_cons : ∃ first further, segment.name.toList = first :: further := by
  cases spelled : segment.name.toList with
  | nil => exact absurd (String.toList_eq_nil_iff.mp spelled) segment.name_ne_empty
  | cons first further => exact ⟨first, further, rfl⟩

theorem not_mem_chars {char : Char} (mark : char ∈ ['.', '(']) : char ∉ segment.chars := by
  intro member
  cases List.mem_append.mp member with
  | inl inName =>
      refine segment.name_plain char inName ?_
      exact List.mem_append_left ['\x60', ':'] mark
  | inr inArity => exact segment.arity_plain char inArity mark

theorem chars_ne_nil : segment.chars ≠ [] := by
  obtain ⟨first, further, spelled⟩ := segment.exists_name_cons
  rw [chars, spelled]
  exact List.cons_ne_nil _ _

theorem takeWhile_chars : segment.chars.takeWhile (· != '\x60') = segment.name.toList := by
  refine Text.takeWhile_append_of_stops ?_ ?_
  · intro char member
    rw [bne_iff_ne]
    rintro rfl
    exact segment.name_plain _ member (by decide)
  · intro char marked
    rw [segment.arity_marked char marked]
    decide

/-- A name of one character is followed by an arity or by what stands behind the segment. -/
theorem second_ne_colon {behind : List Char} (ended : ∀ char ∈ behind.head?, char ≠ ':')
    (letter : Char) (rest : List Char) : segment.chars ++ behind ≠ letter :: ':' :: rest := by
  obtain ⟨first, further, spelled⟩ := segment.exists_name_cons
  intro same
  rw [chars, spelled, List.cons_append, List.cons_append, List.cons.injEq] at same
  obtain ⟨-, same⟩ := same
  cases further with
  | cons second further =>
      obtain rfl : second = ':' := (List.cons.inj same).1
      exact segment.name_plain ':' (by rw [spelled]; simp) (by decide)
  | nil =>
      cases arity : segment.arity.toList with
      | cons mark arity' =>
          rw [arity] at same
          obtain rfl : mark = ':' := (List.cons.inj same).1
          exact absurd (segment.arity_marked ':' (by rw [arity]; rfl)) (by decide)
      | nil =>
          rw [arity] at same
          exact ended ':' (by rw [show behind = ':' :: rest from same]; rfl) rfl

end Segment

/-! ## The two ends of the path -/

namespace Parts

variable (parts : Parts)

theorem segments_ne_nil : parts.segments ≠ [] :=
  List.append_ne_nil_of_right_ne_nil _ (List.cons_ne_nil _ _)

theorem parameterChars_head? (char : Char) (begins : char ∈ parts.parameterChars.head?) :
    char = '(' := by
  unfold parameterChars at begins
  cases given : parts.parameters? with
  | none =>
      rw [given] at begins
      cases begins
  | some parameters =>
      rw [given] at begins
      cases begins
      rfl

/-- The path begins with a segment that a dot, a parenthesis or nothing follows. -/
theorem exists_first_segment :
    ∃ (segment : Segment) (behind : List Char),
      parts.pathChars ++ parts.parameterChars = segment.chars ++ behind ∧
        ∀ char ∈ behind.head?, char ≠ ':' := by
  rw [pathChars]
  cases split : parts.segments with
  | nil => exact absurd split parts.segments_ne_nil
  | cons first further =>
      cases further with
      | nil =>
          refine ⟨first, parts.parameterChars, ?_, ?_⟩
          · rw [List.map_singleton, List.intercalate_singleton]
          · intro char begins
            rw [parts.parameterChars_head? char begins]
            decide
      | cons second further =>
          refine ⟨first, '.' :: (List.intercalate ['.'] ((second :: further).map Segment.chars) ++
            parts.parameterChars), ?_, ?_⟩
          · rw [List.map_cons, List.map_cons, List.intercalate_cons_cons, List.append_assoc,
              List.append_assoc, List.singleton_append]
          · rintro char ⟨rfl⟩
            decide

theorem no_kind_before_path (letter : Char) (rest : List Char) :
    parts.pathChars ++ parts.parameterChars ≠ letter :: ':' :: rest := by
  obtain ⟨segment, behind, split, ended⟩ := parts.exists_first_segment
  rw [split]
  exact segment.second_ne_colon ended letter rest

theorem splitKind_text :
    splitKind parts.text.toList = (parts.kind?, parts.pathChars ++ parts.parameterChars) := by
  rw [text, String.toList_ofList]
  cases kind : parts.kind? with
  | none =>
      unfold splitKind
      split
      · rename_i letter rest same
        exact absurd same (parts.no_kind_before_path letter rest)
      · rfl
  | some letter =>
      have alpha := parts.kind_letter letter kind
      have ascii : letter.toNat < 0x80 ∧ letter ≠ ':' := by
        refine ⟨Nat.lt_of_le_of_lt (TypeToken.range_of_isAlpha alpha).2 (by decide), ?_⟩
        rintro rfl
        exact absurd alpha (by decide)
      simp [splitKind, ascii]

theorem takeWhile_path :
    (parts.pathChars ++ parts.parameterChars).takeWhile (· != '(') = parts.pathChars := by
  refine Text.takeWhile_append_of_stops ?_ ?_
  · intro char member
    rw [bne_iff_ne]
    rintro rfl
    cases Text.mem_intercalate member with
    | inl separator => exact absurd separator (by decide)
    | inr inside =>
        obtain ⟨chars, inSegments, inChars⟩ := inside
        obtain ⟨segment, -, rfl⟩ := List.mem_map.mp inSegments
        exact segment.not_mem_chars (by decide) inChars
  · intro char begins
    rw [parts.parameterChars_head? char begins]
    decide

/-- What is read off the path are its names. -/
theorem names_path :
    names (parts.pathChars ++ parts.parameterChars) = parts.segments.map (·.name.toList) := by
  have split : parts.pathChars.splitOn '.' = parts.segments.map Segment.chars := by
    refine List.splitOn_intercalate '.' ?_ ?_
    · intro chars member
      obtain ⟨segment, -, rfl⟩ := List.mem_map.mp member
      exact segment.not_mem_chars (by decide)
    · exact fun none => parts.segments_ne_nil (List.map_eq_nil_iff.mp none)
  have whole : (parts.segments.map Segment.chars).filter (!·.isEmpty) =
      parts.segments.map Segment.chars := by
    rw [List.filter_eq_self]
    intro chars member
    obtain ⟨segment, -, rfl⟩ := List.mem_map.mp member
    simp [segment.chars_ne_nil]
  rw [names, takeWhile_path, split, whole, List.map_map]
  exact List.map_congr_left fun segment _ => segment.takeWhile_chars

end Parts

theorem shownNames_eq (kind? : Option Char) :
    shownNames kind? = if kind? ∈ [some 'M', some 'P', some 'F', some 'E'] then 2 else 1 := by
  cases kind? with
  | none => rfl
  | some letter => simp [shownNames]

/-- The label of a reference is its short name, whatever its arities and its parameters are. -/
theorem label_text (parts : Parts) : label parts.text = parts.shortName := by
  have labelled : label parts.text = String.ofList (List.intercalate ['.']
      ((parts.segments.map (·.name.toList)).drop
        (parts.owners.length + 1 - shownNames parts.kind?))) := by
    rw [label, parts.splitKind_text]
    simp only [parts.names_path, List.length_map, Parts.segments, List.length_append,
      List.length_singleton]
  have alone : String.ofList (List.intercalate ['.'] [parts.last.name.toList]) =
      parts.last.name := by
    rw [List.intercalate_singleton, String.ofList_toList]
  rw [labelled, shownNames_eq, Parts.shortName, Parts.segments, List.map_append]
  split
  · cases List.eq_nil_or_concat parts.owners with
    | inl none =>
        rw [none]
        exact alone
    | inr found =>
        obtain ⟨front, owner, split⟩ := found
        rw [split, List.concat_eq_append, List.getLast?_concat, ← String.toList_inj]
        simp [List.intercalate_cons_cons, String.toList_append]
  · simp only [Nat.add_sub_cancel]
    rw [List.drop_left' (by rw [List.length_map])]
    exact alone

/-- Dots, a colon and backquotes in the parameters do not show in the label. -/
theorem label_text_dotted_parameters :
    let acme : Segment := ⟨"Acme", "\x602", by simp, by simp, by simp, by simp⟩
    let box : Segment := ⟨"Box", "\x602:b", by simp, by simp, by simp, by simp⟩
    let map : Segment := ⟨"Map", "\x60\x601", by simp, by simp, by simp, by simp⟩
    let parts : Parts := ⟨some 'M', [acme, box], map, some "A.B:C\x601)", by simp⟩
    parts.text = "M:Acme\x602.Box\x602:b.Map\x60\x601(A.B:C\x601)" ∧
      label parts.text = "Box.Map" := by
  intro acme box map parts
  have written : parts.text = "M:Acme\x602.Box\x602:b.Map\x60\x601(A.B:C\x601)" := by
    decide +kernel
  have short : parts.shortName = "Box.Map" := by decide
  exact ⟨written, (label_text parts).trans short⟩

end DocPreview.CodeReference

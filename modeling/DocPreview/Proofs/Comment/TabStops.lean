import DocPreview.Proofs.Comment.CodeLayout
import Mathlib.Data.List.DropRight

/-!
# Tab stops

A tab becomes the spaces that lead to the next tab stop, and everything else stays. Which column a
character stands in is told by what is shown before it on its line, whatever it was made from.
-/

set_option autoImplicit false

namespace DocPreview.CodeBlock

/-- How many characters stand behind the last line feed. -/
def columnOf (shown : List Char) : Nat :=
  (shown.rtakeWhile (· != '\n')).length

/-- The second text is the first with spaces up to the next tab stop for each tab. -/
inductive FillsTabs (size : Nat) : List Char → List Char → Prop where
  | nil : FillsTabs size [] []
  | tab {given shown : List Char} {width : Nat} :
      FillsTabs size given shown → 1 ≤ width → width ≤ size →
      size ∣ columnOf (shown ++ List.replicate width ' ') →
      FillsTabs size (given ++ ['\t']) (shown ++ List.replicate width ' ')
  | other {given shown : List Char} {char : Char} :
      FillsTabs size given shown → char ≠ '\t' →
      FillsTabs size (given ++ [char]) (shown ++ [char])

/-! ## Columns -/

section

variable (shown : List Char)

@[simp] theorem columnOf_nil : columnOf [] = 0 := rfl

@[simp] theorem columnOf_append_feed : columnOf (shown ++ ['\n']) = 0 := by
  rw [columnOf, List.rtakeWhile_concat, if_neg (by decide), List.length_nil]

theorem columnOf_append_singleton {char : Char} (inLine : char ≠ '\n') :
    columnOf (shown ++ [char]) = columnOf shown + 1 := by
  have test : (char != '\n') = true := bne_iff_ne.mpr inLine
  rw [columnOf, List.rtakeWhile_concat, if_pos test, List.length_append, List.length_singleton,
    columnOf]

@[simp] theorem columnOf_append_spaces (width : Nat) :
    columnOf (shown ++ List.replicate width ' ') = columnOf shown + width := by
  induction width with
  | zero => rw [List.replicate_zero, List.append_nil, Nat.add_zero]
  | succ width ih =>
      rw [List.replicate_succ', ← List.append_assoc,
        columnOf_append_singleton _ (by decide : ' ' ≠ '\n'), ih, Nat.add_assoc]

end

/-- Only one width within a step of the stops leads to a stop. -/
theorem width_of_dvd {size column width : Nat} (positive : 1 ≤ width) (within : width ≤ size)
    (stop : size ∣ column + width) : width = size - column % size := by
  have rest : size ∣ column % size + width := by
    have whole : size ∣ size * (column / size) + (column % size + width) := by
      rwa [← Nat.add_assoc, Nat.div_add_mod]
    exact (Nat.dvd_add_right (Nat.dvd_mul_right size _)).mp whole
  have below : column % size < size := Nat.mod_lt column (by omega)
  obtain ⟨count, split⟩ := rest
  have one : count = 1 := by
    cases count with
    | zero => omega
    | succ count =>
        cases count with
        | zero => rfl
        | succ count =>
            rw [Nat.mul_succ, Nat.mul_succ] at split
            omega
  rw [one, Nat.mul_one] at split
  omega

theorem dvd_add_width {size : Nat} (positive : 0 < size) (column : Nat) :
    size ∣ column + (size - column % size) := by
  have split := Nat.div_add_mod column size
  have below := Nat.mod_lt column positive
  refine ⟨column / size + 1, ?_⟩
  rw [Nat.mul_succ]
  omega

/-! ## From character to character -/

/-- What has been shown so far decides the column that the rest begins in. -/
theorem expandFrom_append (size : Nat) (before front back : List Char) :
    expandFrom size (columnOf before) (front ++ back) =
      expandFrom size (columnOf before) front ++
        expandFrom size (columnOf (before ++ expandFrom size (columnOf before) front)) back := by
  induction front generalizing before with
  | nil => rw [List.nil_append, expandFrom, List.nil_append, List.append_nil]
  | cons char front ih =>
      by_cases tab : char = '\t'
      · have rest := ih (before ++ List.replicate (size - columnOf before % size) ' ')
        rw [columnOf_append_spaces] at rest
        simp only [List.cons_append, expandFrom, tab, BEq.rfl, ↓reduceIte, rest, List.append_assoc]
      · by_cases feed : char = '\n'
        · subst feed
          have rest := ih (before ++ ['\n'])
          rw [columnOf_append_feed] at rest
          simp [expandFrom, rest]
        · have rest := ih (before ++ [char])
          rw [columnOf_append_singleton _ feed] at rest
          simp [expandFrom, tab, feed, rest]

theorem expandChars_append_tab {size : Nat} (positive : 0 < size) (given : List Char) :
    expandChars size (given ++ ['\t']) =
      expandChars size given ++
        List.replicate (size - columnOf (expandChars size given) % size) ' ' := by
  have step := expandFrom_append size [] given ['\t']
  rw [columnOf_nil, List.nil_append] at step
  have expanded (chars : List Char) : expandChars size chars = expandFrom size 0 chars :=
    if_neg (Nat.ne_of_gt positive)
  rw [expanded, expanded, step]
  simp [expandFrom]

theorem expandChars_append_other {size : Nat} (given : List Char) {char : Char}
    (shown : char ≠ '\t') :
    expandChars size (given ++ [char]) = expandChars size given ++ [char] := by
  have plain : '\t' ∉ [char] := by simpa using shown.symm
  have step := expandFrom_append size [] given [char]
  rw [expandFrom_of_no_tab plain, columnOf_nil] at step
  unfold expandChars
  split
  · rfl
  · exact step

theorem expandChars_append_feed (size : Nat) (first second : List Char) :
    expandChars size (first ++ '\n' :: second) =
      expandChars size first ++ '\n' :: expandChars size second := by
  have step := expandFrom_append size [] first ('\n' :: second)
  rw [columnOf_nil] at step
  unfold expandChars
  split
  · rfl
  · rw [step]
    simp [expandFrom]

/-! ## Whole texts -/

variable {size : Nat} {given shown : List Char}

theorem FillsTabs.eq_expandChars (fills : FillsTabs size given shown) :
    shown = expandChars size given := by
  induction fills with
  | nil =>
      unfold expandChars
      split
      · rfl
      · rw [expandFrom]
  | @tab given shown width _ positive within stop ih =>
      subst ih
      rw [columnOf_append_spaces] at stop
      rw [expandChars_append_tab (Nat.le_trans positive within),
        ← width_of_dvd positive within stop]
  | other _ plain ih => rw [expandChars_append_other _ plain, ih]

theorem fillsTabs_expandChars (positive : 0 < size) (given : List Char) :
    FillsTabs size given (expandChars size given) := by
  induction given using List.reverseRecOn with
  | nil =>
      rw [expandChars, if_neg (Nat.ne_of_gt positive), expandFrom]
      exact .nil
  | append_singleton given char ih =>
      by_cases tab : char = '\t'
      · subst tab
        have below := Nat.mod_lt (columnOf (expandChars size given)) positive
        rw [expandChars_append_tab positive]
        refine .tab ih (by omega) (Nat.sub_le _ _) ?_
        rw [columnOf_append_spaces]
        exact dvd_add_width positive _
      · rw [expandChars_append_other _ tab]
        exact .other ih tab

theorem fillsTabs_iff (positive : 0 < size) :
    FillsTabs size given shown ↔ shown = expandChars size given := by
  constructor
  · exact FillsTabs.eq_expandChars
  · rintro rfl
    exact fillsTabs_expandChars positive given

theorem no_tab_expandChars (positive : 0 < size) (given : List Char) :
    '\t' ∉ expandChars size given := by
  rw [expandChars, if_neg (Nat.ne_of_gt positive)]
  exact no_tab_expandFrom size 0 given

theorem expandChars_of_no_tab (plain : '\t' ∉ given) (size : Nat) :
    expandChars size given = given := by
  unfold expandChars
  split
  · rfl
  · exact expandFrom_of_no_tab plain size 0

/-- The text with its tabs replaced is the only one that fills them up to the stops. It has no tab,
so that no other size changes it, and it is made line by line. -/
theorem expandTabs_fills_to_stops (text : String) :
    expandTabs 0 text = text ∧
    ∀ size, 0 < size →
      (∀ shown : String, FillsTabs size text.toList shown.toList ↔ shown = expandTabs size text) ∧
      '\t' ∉ (expandTabs size text).toList ∧
      (∀ first second, text = first ++ "\n" ++ second →
        expandTabs size text = expandTabs size first ++ "\n" ++ expandTabs size second) ∧
      ∀ again, expandTabs again (expandTabs size text) = expandTabs size text := by
  refine ⟨?_, fun size positive => ⟨fun shown => ?_, ?_, ?_, fun again => ?_⟩⟩
  · rw [expandTabs, expandChars, if_pos rfl, String.ofList_toList]
  · rw [fillsTabs_iff positive, expandTabs, ← String.toList_inj, String.toList_ofList]
  · rw [expandTabs, String.toList_ofList]
    exact no_tab_expandChars positive _
  · rintro first second rfl
    have lines := expandChars_append_feed size first.toList second.toList
    rw [← String.toList_inj]
    simpa [expandTabs, String.toList_append] using lines
  · have plain := no_tab_expandChars positive text.toList
    rw [expandTabs, expandTabs, String.toList_ofList, expandChars_of_no_tab plain]

/-- A tab behind a column that is a stop already takes a full step. -/
theorem expandTabs_fills_to_stops_at_stop :
    let text := "a\t\nébc\t\td"
    let shown := "a  \nébc      d"
    0 < 3 ∧ text = "a\t" ++ "\n" ++ "ébc\t\td" ∧ FillsTabs 3 text.toList shown.toList ∧
      shown = expandTabs 3 "a\t" ++ "\n" ++ expandTabs 3 "ébc\t\td" ∧
      expandTabs 8 shown = shown := by
  intro text shown
  have made : shown = expandTabs 3 text := by decide +kernel
  obtain ⟨fills, -, lines, again⟩ := (expandTabs_fills_to_stops text).2 3 (by decide)
  refine ⟨by decide, by decide, (fills shown).mpr made, ?_, ?_⟩
  · rw [made]
    exact lines "a\t" "ébc\t\td" (by decide)
  · rw [made]
    exact again 8

end DocPreview.CodeBlock

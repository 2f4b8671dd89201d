import DocPreview.Comment.CodeBlock
import DocPreview.Proofs.Text.Lines
import DocPreview.Proofs.Text.Trim

/-!
# What a code block keeps

A code block is laid out anew: tabs are replaced, and blanks go from both ends of its lines. What
stands in one line, holds no tab and is blank at neither end stays as it is.
-/

set_option autoImplicit false

namespace DocPreview.CodeBlock

/-! ## Tabs -/

theorem exists_expandFrom_append (size column : Nat) (front back : List Char) :
    ∃ reached, expandFrom size column (front ++ back) =
      expandFrom size column front ++ expandFrom size reached back := by
  induction front generalizing column with
  | nil => exact ⟨column, rfl⟩
  | cons char front ih =>
      by_cases tab : char = '\t'
      · obtain ⟨reached, split⟩ := ih (column + (size - column % size))
        refine ⟨reached, ?_⟩
        simp only [List.cons_append, expandFrom, tab, BEq.rfl, ↓reduceIte, split,
          List.append_assoc]
      · by_cases feed : char = '\n'
        · obtain ⟨reached, split⟩ := ih 0
          refine ⟨reached, ?_⟩
          subst feed
          simp only [List.cons_append, expandFrom, split]
          rfl
        · obtain ⟨reached, split⟩ := ih (column + 1)
          refine ⟨reached, ?_⟩
          simp [expandFrom, tab, feed, split]

theorem expandFrom_of_no_tab {chars : List Char} (plain : '\t' ∉ chars) (size column : Nat) :
    expandFrom size column chars = chars := by
  induction chars generalizing column with
  | nil => rfl
  | cons char chars ih =>
      have shown : char ≠ '\t' := fun tab => plain (tab ▸ List.mem_cons_self)
      have rest := ih fun member => plain (List.mem_cons_of_mem _ member)
      by_cases feed : char = '\n'
      · subst feed
        exact congrArg _ (rest 0)
      · simp [expandFrom, shown, feed, rest]

theorem infix_expandChars {part chars : List Char} (plain : '\t' ∉ part) (within : part <:+: chars)
    (size : Nat) : part <:+: expandChars size chars := by
  unfold expandChars
  split
  · exact within
  · obtain ⟨front, back, rfl⟩ := within
    obtain ⟨reached, whole⟩ := exists_expandFrom_append size 0 (front ++ part) back
    obtain ⟨begun, split⟩ := exists_expandFrom_append size 0 front part
    rw [whole, split, expandFrom_of_no_tab plain]
    exact ⟨_, _, rfl⟩

/-! ## Lines -/

theorem mem_dropWhile {α : Type} {test : α → Bool} {item : α} {items : List α}
    (member : item ∈ items) (fails : test item = false) : item ∈ items.dropWhile test := by
  rw [← List.takeWhile_append_dropWhile (p := test) (l := items)] at member
  cases List.mem_append.mp member with
  | inl taken =>
      have passes := List.mem_takeWhile_imp taken
      rw [fails] at passes
      cases passes
  | inr dropped => exact dropped

theorem mem_trimLines {line : List Char} {lines : List (List Char)} (member : line ∈ lines)
    (shown : isBlankLine line = false) : line ∈ trimLines lines := by
  unfold trimLines
  rw [List.mem_reverse]
  refine mem_dropWhile ?_ shown
  rw [List.mem_reverse]
  exact mem_dropWhile member shown

theorem sharedIndentation_le {line : List Char} {lines : List (List Char)} (member : line ∈ lines)
    (shown : isBlankLine line = false) : sharedIndentation lines ≤ indentation line := by
  refine List.min?_getD_le_of_mem (List.mem_map_of_mem (List.mem_filter.mpr ⟨member, ?_⟩))
  rw [shown]
  rfl

variable {first last : Char} {front part back : List Char}

theorem indentation_le (shown : isBlank first = false) :
    indentation (front ++ first :: back) ≤ front.length := by
  induction front with
  | nil => simp [indentation, shown]
  | cons char front ih =>
      unfold indentation at ih ⊢
      rw [List.cons_append, List.takeWhile_cons]
      split
      · exact Nat.succ_le_succ ih
      · exact Nat.zero_le _

theorem exists_trimEnd_append (shown : isBlank last = false) (front back : List Char) :
    ∃ rest, Text.trimEnd (front ++ last :: back) = front ++ last :: rest := by
  induction back using List.reverseRecOn with
  | nil =>
      refine ⟨[], ?_⟩
      rw [Text.trimEnd_eq_rdropWhile, List.rdropWhile_concat_neg]
      simp [shown]
  | append_singleton back ending ih =>
      rw [Text.trimEnd_eq_rdropWhile] at ih ⊢
      rw [← List.cons_append, ← List.append_assoc, List.rdropWhile_concat]
      split
      · exact ih
      · exact ⟨back ++ [ending], by simp⟩

theorem isBlankLine_of_infix {line : List Char} (nonempty : part ≠ [])
    (whole : Text.IsTrimmed part) (within : part <:+: line) : isBlankLine line = false := by
  cases part with
  | nil => exact absurd rfl nonempty
  | cons first part =>
      have shown : isBlank first = false := by simpa [Text.IsTrimmed] using whole.1
      have member : first ∈ line := within.subset List.mem_cons_self
      unfold isBlankLine
      rw [List.all_eq_false]
      exact ⟨first, member, by rw [shown]; exact Bool.false_ne_true⟩

/-- Of a line that shows the part, the indentation that all lines share is before the part. -/
theorem infix_formatted {line : List Char} {count : Nat} (nonempty : part ≠ [])
    (whole : Text.IsTrimmed part) (within : part <:+: line) (shared : count ≤ indentation line) :
    part <:+: Text.trimEnd (line.drop count) := by
  obtain ⟨front, back, rfl⟩ := within
  have before : count ≤ front.length := by
    cases part with
    | nil => exact absurd rfl nonempty
    | cons first part =>
        have shown : isBlank first = false := by simpa [Text.IsTrimmed] using whole.1
        rw [List.append_assoc, List.cons_append] at shared
        exact shared.trans (indentation_le shown)
  rw [List.append_assoc, List.drop_append_of_le_length before]
  cases part using List.reverseRecOn with
  | nil => exact absurd rfl nonempty
  | append_singleton part last =>
      have shown : isBlank last = false := by simpa [Text.IsTrimmed] using whole.2
      obtain ⟨rest, trimmed⟩ := exists_trimEnd_append shown (front.drop count ++ part) back
      refine ⟨front.drop count, rest, ?_⟩
      rw [List.append_assoc, List.append_assoc] at trimmed
      rw [List.append_assoc, List.append_assoc, List.cons_append, List.nil_append]
      exact trimmed.symm.trans (by simp)

theorem infix_intercalate {separator line : List Char} {lines : List (List Char)}
    (member : line ∈ lines) : line <:+: List.intercalate separator lines := by
  induction lines with
  | nil => cases member
  | cons next lines ih =>
      cases lines with
      | nil =>
          have same : line = next := List.mem_singleton.mp member
          simp only [same, List.intercalate_singleton, List.infix_rfl]
      | cons later lines =>
          rw [List.intercalate_cons_cons, List.append_assoc]
          cases List.mem_cons.mp member with
          | inl same =>
              rw [same]
              exact (List.prefix_append _ _).isInfix
          | inr rest =>
              exact ((ih rest).trans (List.suffix_append _ _).isInfix).trans
                (List.suffix_append _ _).isInfix

/-- A part of the text that stands in one line, holds no tab and is blank at neither end is shown as
it is, whatever else the block holds. -/
theorem infix_format {text : String} (tabSize : Option Nat) (nonempty : part ≠ [])
    (whole : Text.IsTrimmed part) (unbroken : '\n' ∉ part) (plain : '\t' ∉ part)
    (within : part <:+: text.toList) : part <:+: (format tabSize text).toList := by
  have expanded : ∀ chars, part <:+: chars →
      part <:+: Text.joinLines (formatLines (Text.lines chars)) := by
    intro chars within
    have closed : part.getLast? ≠ some '\r' := by
      intro ended
      have shown := whole.2
      rw [ended] at shown
      exact absurd shown (by decide)
    obtain ⟨line, member, inside⟩ := Text.exists_line_of_infix nonempty unbroken closed within
    have shown := isBlankLine_of_infix nonempty whole inside
    have kept := mem_trimLines member shown
    refine (infix_formatted nonempty whole inside (sharedIndentation_le kept shown)).trans ?_
    exact infix_intercalate (List.mem_map_of_mem kept)
  unfold format
  rw [String.toList_ofList]
  cases tabSize with
  | none => exact expanded _ within
  | some size => exact expanded _ (infix_expandChars plain within size)

end DocPreview.CodeBlock

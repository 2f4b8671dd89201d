import DocPreview.Text.Blank
import Mathlib.Data.List.DropRight

/-!
# Trimming

Trimming takes blanks from the two ends and nothing else, and what neither begins nor ends with a
blank stays as it is.
-/

set_option autoImplicit false

namespace DocPreview

namespace Text

/-- A run of characters ends where the first one stands that does not belong to it. -/
theorem takeWhile_append_of_stops {belongs : Char → Bool} {taken rest : List Char}
    (all : ∀ char ∈ taken, belongs char) (stops : ∀ char ∈ rest.head?, belongs char = false) :
    (taken ++ rest).takeWhile belongs = taken := by
  rw [List.takeWhile_append_of_pos all]
  cases rest with
  | nil => simp
  | cons char rest => simp [stops char rfl]

def IsTrimmed (chars : List Char) : Prop :=
  chars.head?.all (!isBlank ·) = true ∧ chars.getLast?.all (!isBlank ·) = true

theorem trimEnd_eq_rdropWhile (chars : List Char) :
    trimEnd chars = chars.rdropWhile isBlank := by
  have step (chars : List Char) (last : Char) (kept : isBlank last = false) :
      trimEnd (chars ++ [last]) = chars ++ [last] := by
    induction chars with
    | nil => simp [trimEnd, kept]
    | cons char chars ih =>
        simp only [trimEnd, List.cons_append, List.foldr_cons] at ih ⊢
        rw [ih]
        simp
  induction chars using List.reverseRecOn with
  | nil => rfl
  | append_singleton chars last ih =>
      rw [List.rdropWhile_concat]
      cases kept : isBlank last with
      | true => simpa [trimEnd, kept] using ih
      | false => simpa using step chars last kept

/-- What is left between two trimmed ends begins with an item that stays. -/
theorem of_mem_head?_rdropWhile {α : Type} {test : α → Bool} {items : List α} {first : α}
    (begins : first ∈ ((items.dropWhile test).rdropWhile test).head?) : test first = false := by
  obtain ⟨rest, left⟩ := List.head?_eq_some_iff.mp begins
  obtain ⟨dropped, split⟩ := List.rdropWhile_prefix test (items.dropWhile test)
  have stays := List.head?_dropWhile_not test items
  rw [← split, left] at stays
  exact stays

theorem of_mem_getLast?_rdropWhile {α : Type} {test : α → Bool} {items : List α} {last : α}
    (ends : last ∈ (items.rdropWhile test).getLast?) : test last = false := by
  have nonempty : items.rdropWhile test ≠ [] := by
    intro empty
    rw [empty] at ends
    cases ends
  have stays := List.rdropWhile_last_not test items nonempty
  rw [List.getLast?_eq_getLast_of_ne_nil nonempty] at ends
  cases ends
  simpa using stays

theorem isTrimmed_of_shown {chars : List Char} (shown : ∀ char ∈ chars, isBlank char = false) :
    IsTrimmed chars := by
  constructor
  · cases first : chars.head? with
    | none => rfl
    | some char => simp [shown char (List.mem_of_head? first)]
  · cases last : chars.getLast? with
    | none => rfl
    | some char => simp [shown char (List.mem_of_getLast? last)]

theorem isTrimmed_append {first : Char} {middle back : List Char}
    (begins : isBlank first = false) (shown : ∀ char ∈ back, isBlank char = false)
    (nonempty : back ≠ []) : IsTrimmed (first :: middle ++ back) := by
  refine ⟨by simp [begins], ?_⟩
  have last := shown _ (List.getLast_mem nonempty)
  rw [List.getLast?_append, List.getLast?_eq_getLast_of_ne_nil nonempty]
  simp [last]

/-- What is taken from the ends is blank. -/
theorem exists_blanks_around_trim (chars : List Char) :
    ∃ front back, chars = front ++ trim chars ++ back ∧
      (∀ char ∈ front, isBlank char = true) ∧ ∀ char ∈ back, isBlank char = true := by
  refine ⟨chars.takeWhile isBlank, (trimStart chars).rtakeWhile isBlank, ?_,
    fun _ => List.mem_takeWhile_imp, fun _ => List.mem_rtakeWhile_imp⟩
  rw [List.append_assoc, trim, trimEnd_eq_rdropWhile, List.rdropWhile_append_rtakeWhile, trimStart,
    List.takeWhile_append_dropWhile]

theorem trim_of_isTrimmed {chars : List Char} (whole : IsTrimmed chars) : trim chars = chars := by
  obtain ⟨front, back⟩ := whole
  have start : trimStart chars = chars := by
    cases chars with
    | nil => rfl
    | cons char chars => simp_all [trimStart]
  rw [trim, start, trimEnd_eq_rdropWhile, List.rdropWhile_eq_self_iff]
  intro nonempty
  simpa [List.getLast?_eq_getLast_of_ne_nil nonempty] using back

theorem isTrimmed_trim (chars : List Char) : IsTrimmed (trim chars) := by
  rw [IsTrimmed, trim, trimEnd_eq_rdropWhile, trimStart, Option.all_eq_true, Option.all_eq_true]
  constructor
  · intro first begins
    rw [of_mem_head?_rdropWhile begins]
    rfl
  · intro last ends
    rw [of_mem_getLast?_rdropWhile ends]
    rfl

/-- Only blanks are trimmed. -/
theorem exists_blanks_behind_trimEnd (chars : List Char) :
    ∃ back, chars = trimEnd chars ++ back ∧ ∀ char ∈ back, isBlank char = true := by
  refine ⟨chars.rtakeWhile isBlank, ?_, ?_⟩
  · rw [trimEnd_eq_rdropWhile, List.rdropWhile_append_rtakeWhile]
  · intro char member
    exact List.mem_rtakeWhile_imp member

theorem filter_of_blanks {blanks : List Char} (blank : ∀ char ∈ blanks, isBlank char = true) :
    blanks.filter (!isBlank ·) = [] := by
  rw [List.filter_eq_nil_iff]
  intro char member
  rw [blank char member]
  exact Bool.false_ne_true

theorem filter_trimEnd (chars : List Char) :
    (trimEnd chars).filter (!isBlank ·) = chars.filter (!isBlank ·) := by
  obtain ⟨back, split, blank⟩ := exists_blanks_behind_trimEnd chars
  conv_rhs => rw [split, List.filter_append, filter_of_blanks blank, List.append_nil]

end Text

theorem trimmed_of_isTrimmed {text : String} (whole : Text.IsTrimmed text.toList) :
    trimmed text = text := by
  rw [trimmed, Text.trim_of_isTrimmed whole, String.ofList_toList]

@[simp] theorem trimmed_trimmed (text : String) : trimmed (trimmed text) = trimmed text :=
  trimmed_of_isTrimmed (by simpa [trimmed] using Text.isTrimmed_trim text.toList)

end DocPreview

import DocPreview.Xml.Document
import Mathlib.Data.List.Nodup
import Mathlib.Data.String.Basic

/-!
# The order of names

Names are ordered by prefix and local part. Attributes are sorted by their names, and in a sorted
list a repeated name stands beside itself, so looking at neighbours finds every repetition.
-/

set_option autoImplicit false

namespace DocPreview.Xml

namespace QName

theorem mk_injective (space : Option String) : Function.Injective (mk space) :=
  fun _ _ same => (mk.inj same).2

theorem precedes_total (left right : QName) : (left.precedes right || right.precedes left) := by
  obtain ⟨leftSpace, leftLocal⟩ := left
  obtain ⟨rightSpace, rightLocal⟩ := right
  have locals := String.le_total leftLocal rightLocal
  cases leftSpace with
  | none =>
      cases rightSpace with
      | none => simpa [precedes] using locals
      | some second => simp [precedes]
  | some first =>
      cases rightSpace with
      | none => simp [precedes]
      | some second =>
          obtain less | rfl | greater := lt_trichotomy first second
          · simp [precedes, less]
          · simpa [precedes] using locals
          · simp [precedes, greater]

theorem precedes_trans (first second third : QName) (firstSecond : first.precedes second)
    (secondThird : second.precedes third) : first.precedes third := by
  obtain ⟨firstSpace, firstLocal⟩ := first
  obtain ⟨secondSpace, secondLocal⟩ := second
  obtain ⟨thirdSpace, thirdLocal⟩ := third
  cases firstSpace <;> cases secondSpace <;> cases thirdSpace <;>
    simp only [precedes, Bool.or_eq_true, Bool.and_eq_true, decide_eq_true_eq, beq_iff_eq,
      Bool.false_eq_true] at firstSecond secondThird ⊢
  · exact String.le_trans firstSecond secondThird
  · obtain less | ⟨rfl, locals⟩ := firstSecond
    · obtain less' | ⟨rfl, _⟩ := secondThird
      · exact .inl (less.trans less')
      · exact .inl less
    · obtain less' | ⟨rfl, locals'⟩ := secondThird
      · exact .inl less'
      · exact .inr ⟨rfl, String.le_trans locals locals'⟩

theorem eq_of_precedes {left right : QName} (forwards : left.precedes right)
    (backwards : right.precedes left) : left = right := by
  obtain ⟨leftSpace, leftLocal⟩ := left
  obtain ⟨rightSpace, rightLocal⟩ := right
  cases leftSpace <;> cases rightSpace <;>
    simp only [precedes, Bool.or_eq_true, Bool.and_eq_true, decide_eq_true_eq, beq_iff_eq,
      Bool.false_eq_true] at forwards backwards
  · rw [String.le_antisymm forwards backwards]
  · obtain less | ⟨rfl, locals⟩ := forwards
    · obtain less' | ⟨rfl, _⟩ := backwards
      · exact absurd (less.trans less') (lt_irrefl _)
      · exact absurd less (lt_irrefl _)
    · obtain less' | ⟨_, locals'⟩ := backwards
      · exact absurd less' (lt_irrefl _)
      · rw [String.le_antisymm locals locals']

end QName

/-! ## Sorted lists -/

section

open QName

variable {α : Type} (nameOf : α → QName)

def byName (items : List α) : List α :=
  items.mergeSort fun left right => (nameOf left).precedes (nameOf right)

theorem byName_perm (items : List α) : (byName nameOf items).Perm items :=
  List.mergeSort_perm _ _

theorem byName_pairwise (items : List α) :
    (byName nameOf items).Pairwise fun left right => (nameOf left).precedes (nameOf right) :=
  List.pairwise_mergeSort
    (fun first second third => precedes_trans (nameOf first) (nameOf second) (nameOf third))
    (fun left right => precedes_total (nameOf left) (nameOf right)) items

theorem map_byName {β : Type} (f : β → α) (items : List β) :
    (byName (nameOf ∘ f) items).map f = byName nameOf (items.map f) :=
  List.map_mergeSort fun _ _ _ _ => rfl

/-- A sorted list without repetitions is determined by its items. -/
theorem eq_of_perm_of_pairwise {first second : List α} (same : first.Perm second)
    (distinct : (first.map nameOf).Nodup)
    (firstSorted : first.Pairwise fun left right => (nameOf left).precedes (nameOf right))
    (secondSorted : second.Pairwise fun left right => (nameOf left).precedes (nameOf right)) :
    first = second := by
  refine List.Perm.eq_of_pairwise ?_ firstSorted secondSorted same
  intro left right leftMember rightMember forwards backwards
  exact List.inj_on_of_nodup_map distinct leftMember (same.mem_iff.mpr rightMember)
    (QName.eq_of_precedes forwards backwards)

end

/-- In a sorted list every repetition is one of neighbours. -/
theorem nodup_of_firstRepeated? {attributes : List WrittenAttribute}
    (sorted : attributes.Pairwise fun left right => left.name.value.precedes right.name.value)
    (accepted : firstRepeated? attributes = none) :
    (attributes.map (·.name.value)).Nodup := by
  induction attributes with
  | nil => exact List.nodup_nil
  | cons first attributes ih =>
      obtain ⟨before, sorted⟩ := List.pairwise_cons.mp sorted
      cases attributes with
      | nil => simp
      | cons second attributes =>
          by_cases repeated : first.name.value = second.name.value
          · simp [firstRepeated?, repeated] at accepted
          rw [firstRepeated?, if_neg repeated] at accepted
          refine List.nodup_cons.mpr ⟨?_, ih sorted accepted⟩
          intro member
          obtain ⟨other, member, same⟩ := List.mem_map.mp member
          obtain rfl | member := List.mem_cons.mp member
          · exact repeated same.symm
          · have after := (List.pairwise_cons.mp sorted).1 other member
            rw [same] at after
            exact repeated (QName.eq_of_precedes (before second List.mem_cons_self) after)

theorem firstRepeated?_eq_none {attributes : List WrittenAttribute}
    (distinct : (attributes.map (·.name.value)).Nodup) : firstRepeated? attributes = none := by
  induction attributes with
  | nil => rfl
  | cons first attributes ih =>
      obtain ⟨fresh, distinct⟩ := List.nodup_cons.mp distinct
      cases attributes with
      | nil => rfl
      | cons second attributes =>
          have other : first.name.value ≠ second.name.value := fun same => fresh (by simp [same])
          rw [firstRepeated?, if_neg other, ih distinct]

end DocPreview.Xml

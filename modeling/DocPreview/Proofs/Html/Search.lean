import DocPreview.Html.Basic
import Mathlib.Data.List.Basic

/-!
# Searching markup

What is found in a fragment is what is found in its parts, one after another.
-/

set_option autoImplicit false

namespace DocPreview.Html

theorem findAllIn_append (tag : String) (front back : List Html) :
    findAllIn tag (front ++ back) = findAllIn tag front ++ findAllIn tag back := by
  induction front with
  | nil => rfl
  | cons node front ih => rw [List.cons_append, findAllIn, findAllIn, ih, List.append_assoc]

theorem findAllIn_map {α : Type} {tag : String} {markup : α → Html} {found : α → List Html}
    (each : ∀ item, findAll tag (markup item) = found item) (items : List α) :
    findAllIn tag (items.map markup) = items.flatMap found := by
  induction items with
  | nil => rfl
  | cons item items ih => rw [List.map_cons, findAllIn, each, ih, List.flatMap_cons]

theorem findAllIn_map_eq_nil {α : Type} {tag : String} {markup : α → Html}
    (each : ∀ item, findAll tag (markup item) = []) (items : List α) :
    findAllIn tag (items.map markup) = [] := by
  rw [findAllIn_map each]
  exact List.flatMap_eq_nil_iff.mpr fun _ _ => rfl

/-- The style classes of an element; spaces separate them. -/
def styleClasses (html : Html) : List String :=
  match html.attribute? "class" with
  | some value => (value.toList.splitOn ' ').map String.ofList
  | none => []

theorem styleClasses_classed (tag styleClass : String) (children : List Html) :
    (classed tag styleClass children).styleClasses =
      (styleClass.toList.splitOn ' ').map String.ofList := rfl

end DocPreview.Html

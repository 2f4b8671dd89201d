import DocPreview.Comment.Element

/-!
# Repeated references

Among the children of one element, a reference that repeats an earlier sibling is dropped. Two
references are the same when they have the same name and the same target. Texts, other elements
and references without a target all stay.
-/

set_option autoImplicit false

namespace DocPreview

/-- Name and target of a reference; none for other elements and for references without one. -/
def linkTarget? (name : String) (attributes : List (String × String)) :
    Option (String × String) :=
  if name == "see" || name == "seealso" then
    (["cref", "href", "langword"].findSome? (attributes.lookup ·)).map fun target =>
      (name, target)
  else none

/-- The items without those whose key stands in `seen` or belongs to an earlier item. Items
without a key stay. -/
def keepFirst {α κ : Type} [BEq κ] (key? : α → Option κ) : (seen : List κ) → List α → List α
  | _, [] => []
  | seen, item :: items =>
    match key? item with
    | none => item :: keepFirst key? seen items
    | some key =>
      if seen.contains key then keepFirst key? seen items
      else item :: keepFirst key? (key :: seen) items

def Node.linkTarget? : Node → Option (String × String)
  | .text _ => none
  | .element name attributes _ => DocPreview.linkTarget? name attributes

/-- The element without the children that repeat an earlier reference. -/
def Element.suppressDuplicateLinks (element : Element) : Element :=
  { element with children := keepFirst Node.linkTarget? [] element.children }

end DocPreview

import DocPreview.Comment.Element

/-!
# What XML text cannot tell apart

Neighbouring texts are written as one and an empty text is not written at all, so two trees that
differ in nothing else have the same text.
-/

set_option autoImplicit false

namespace DocPreview.Node

/-- A text in front of nodes, as one with the text that they begin with. -/
def joinText (content : String) : List Node → List Node
  | .text next :: nodes => .text (content ++ next) :: nodes
  | nodes => if content.isEmpty then nodes else .text content :: nodes

mutual

def settleBefore (nodes : List Node) : Node → List Node
  | .text content => joinText content nodes
  | .element name attributes children => .element name attributes (settled children) :: nodes

/-- The nodes with neighbouring texts merged and empty texts dropped, at every depth. -/
def settled : List Node → List Node
  | [] => []
  | node :: nodes => settleBefore (settled nodes) node

end

theorem joinText_append (first second : String) (nodes : List Node) :
    joinText (first ++ second) nodes = joinText first (joinText second nodes) := by
  unfold joinText
  cases nodes with
  | nil => by_cases empty : second = "" <;> simp [empty]
  | cons node nodes =>
      cases node with
      | text next => simp [String.append_assoc]
      | element name attributes children => by_cases empty : second = "" <;> simp [empty]

@[simp]
theorem joinText_empty (nodes : List Node) : joinText "" nodes = nodes := by
  unfold joinText
  split <;> simp

theorem settled_text_cons (content : String) (nodes : List Node) :
    settled (.text content :: nodes) = joinText content (settled nodes) := by
  rw [settled, settleBefore]

theorem settled_element_cons (name : String) (attributes : List (String × String))
    (children nodes : List Node) :
    settled (.element name attributes children :: nodes) =
      .element name attributes (settled children) :: settled nodes := by
  rw [settled, settleBefore]

end DocPreview.Node

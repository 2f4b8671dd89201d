import DocPreview.Comment.Element

/-!
# Subtrees

The nodes of a tree, each before those below it, so that a condition on a tree can be one on each
of its nodes.
-/

set_option autoImplicit false

namespace DocPreview

mutual

def Node.subtree : Node → List Node
  | .text content => [.text content]
  | .element name attributes children =>
    .element name attributes children :: Node.subtrees children

def Node.subtrees : List Node → List Node
  | [] => []
  | node :: nodes => Node.subtree node ++ Node.subtrees nodes

end

def Element.descendants (element : Element) : List Node :=
  Node.subtrees element.children

namespace Node

@[simp] theorem subtrees_nil : subtrees [] = [] := by
  simp [subtrees]

theorem subtrees_cons (node : Node) (nodes : List Node) :
    subtrees (node :: nodes) = subtree node ++ subtrees nodes := by
  simp [subtrees]

@[simp] theorem subtrees_append (left right : List Node) :
    subtrees (left ++ right) = subtrees left ++ subtrees right := by
  induction left with
  | nil => simp
  | cons node nodes ih => simp [subtrees_cons, ih]

end Node

end DocPreview

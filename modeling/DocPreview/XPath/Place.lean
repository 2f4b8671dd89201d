import DocPreview.XPath.Token
import DocPreview.Xml.Document

/-!
# Places of a document

A query selects places: the root, nodes below it, attributes and namespace bindings. A place
knows the way back to the root, which gives its ancestors, its siblings and its position in
document order. An element stands before its attributes, and these, the last of them first, before
its children. The bindings stand behind all other places of the document.
-/

set_option autoImplicit false

namespace DocPreview.XPath

open Xml (Document XmlNode XmlAttribute StartTag)

inductive Place where
  | root (document : Document)
  | child (parent : Place) (index : Nat) (node : XmlNode)
  /-- An attribute of an element, with the number of attributes behind it. -/
  | attribute (owner : Place) (behind : Nat) (attr : XmlAttribute)
  /-- A prefix that is bound at an element. -/
  | binding (owner : Place) (index : Nat) (space uri : String)

namespace Place

/-- The way from the root. An element stands before what it holds, and what it holds is ordered
by kind and then by number; a binding has a way apart, behind all others. -/
def key : Place → List Nat
  | .root _ => []
  | .attribute owner behind _ => owner.key ++ [0, behind]
  | .child parent index _ => parent.key ++ [1, index]
  | .binding owner index _ _ => 2 :: owner.key ++ [index]

/-- Whether a way does not lead behind another. -/
def precedes : List Nat → List Nat → Bool
  | [], _ => true
  | _ :: _, [] => false
  | left :: lefts, right :: rights =>
    left < right || (left == right && precedes lefts rights)

/-- The places in document order, each once. -/
def inOrder (places : List Place) : List Place :=
  let keyed := places.map fun place => (place.key, place)
  let sorted := keyed.mergeSort fun left right => precedes left.1 right.1
  (dropRepeated sorted).map Prod.snd
where
  /-- Drops what has the key of the pair behind it. -/
  dropRepeated : List (List Nat × Place) → List (List Nat × Place)
    | first :: second :: rest =>
      if first.1 = second.1 then dropRepeated (second :: rest)
      else first :: dropRepeated (second :: rest)
    | places => places

/-! ## What a place holds -/

def tag? : Place → Option StartTag
  | .child _ _ (.element tag _) => some tag
  | _ => none

def contents : Place → List XmlNode
  | .root document => document.nodes
  | .child _ _ (.element _ children) => children
  | _ => []

def children (place : Place) : List Place :=
  place.contents.mapIdx (Place.child place)

def attributes (place : Place) : List Place :=
  match place.tag? with
  | none => []
  | some tag =>
    tag.attributes.mapIdx fun index attr =>
      .attribute place (tag.attributes.length - 1 - index) attr

/-- The prefixes that are bound at an element: `xml`, always to the same namespace, and then the
others, where what an element binds hides what is bound around it. -/
def scope (tag : StartTag) : Xml.Bindings :=
  (("xml", Xml.xmlUri) :: tag.levels.flatten).foldr
    (fun bound rest => bound :: rest.filter (·.1 != bound.1)) []

def bindings (place : Place) : List Place :=
  match place.tag? with
  | none => []
  | some tag => (scope tag).mapIdx fun index (space, uri) => .binding place index space uri

mutual

def subtree (parent : Place) (index : Nat) : XmlNode → List Place
  | .element tag children =>
    let here := Place.child parent index (.element tag children)
    here :: subtrees here 0 children
  | .text content => [.child parent index (.text content)]
  | .comment content => [.child parent index (.comment content)]
  | .instruction target value => [.child parent index (.instruction target value)]

/-- Children from a number on, and all that stands below them. -/
def subtrees (parent : Place) : (index : Nat) → List XmlNode → List Place
  | _, [] => []
  | index, node :: nodes => subtree parent index node ++ subtrees parent (index + 1) nodes

end

def descendants (place : Place) : List Place :=
  subtrees place 0 place.contents

/-! ## Where a place stands -/

def parent? : Place → Option Place
  | .root _ => none
  | .child parent _ _ => some parent
  | .attribute owner _ _ => some owner
  | .binding owner _ _ _ => some owner

/-- The places around a place, innermost first. -/
def ancestors : Place → List Place
  | .root _ => []
  | .child parent _ _ => parent :: parent.ancestors
  | .attribute owner _ _ => owner :: owner.ancestors
  | .binding owner _ _ _ => owner :: owner.ancestors

def top (place : Place) : Place :=
  place.ancestors.getLastD place

/-- The siblings behind a child, nearest first. -/
def following : Place → List Place
  | .child parent index _ => parent.children.drop (index + 1)
  | _ => []

/-- The siblings before a child, nearest first. -/
def preceding : Place → List Place
  | .child parent index _ => (parent.children.take index).reverse
  | _ => []

def along (place : Place) : Axis → List Place
  | .itself => [place]
  | .child => place.children
  | .attribute => place.attributes
  | .binding => place.bindings
  | .parent => place.parent?.toList
  | .ancestor => place.ancestors
  | .ancestorOrSelf => place :: place.ancestors
  | .descendant => place.descendants
  | .descendantOrSelf => place :: place.descendants
  | .followingSibling => place.following
  | .precedingSibling => place.preceding
  | .following =>
    (place :: place.ancestors).flatMap fun outer =>
      outer.following.flatMap fun sibling => sibling :: sibling.descendants
  | .preceding =>
    (place :: place.ancestors).flatMap fun outer =>
      outer.preceding.flatMap fun sibling => (sibling :: sibling.descendants).reverse

/-! ## Names and values -/

/-- The namespace and the local part of the name of a place. -/
def expandedName? : Place → Option (Option String × String)
  | .child _ _ (.element tag _) => some (tag.uri, tag.name.localPart)
  | .child _ _ (.instruction target _) => some (none, target)
  | .attribute _ _ attr => some (attr.uri, attr.name.localPart)
  | .binding _ _ space _ => some (none, space)
  | _ => none

/-- A prefix that an element binds to a namespace; the one that a name was written with goes
first. -/
def prefixFor? (written : Option String) (uri : String) (bindings : Xml.Bindings) :
    Option String :=
  let prefixes := (bindings.filter (·.2 == uri)).map Prod.fst
  prefixes.find? (some · == written) <|> prefixes.head?

/-- A name with a prefix for its namespace. The innermost element that binds one gives it, even
where an element further in binds that prefix again. -/
def qualified (tag : StartTag) (uri : Option String) (name : Xml.QName) : String :=
  match uri.bind fun uri => tag.levels.findSome? (prefixFor? name.space uri) with
  | some space => space ++ ":" ++ name.localPart
  | none => name.localPart

def qualifiedName : Place → String
  | .child _ _ (.element tag _) => qualified tag tag.uri tag.name
  | .child _ _ (.instruction target _) => target
  | .attribute owner _ attr =>
    match owner.tag? with
    | some tag => qualified tag attr.uri attr.name
    | none => attr.name.localPart
  | .binding _ _ space _ => space
  | _ => ""

mutual

def nodeText : XmlNode → String
  | .element _ children => nodesText children
  | .text content => content
  | .comment _ => ""
  | .instruction _ _ => ""

def nodesText : List XmlNode → String
  | [] => ""
  | node :: nodes => nodeText node ++ nodesText nodes

end

def text : Place → String
  | .root document => nodesText document.nodes
  | .child _ _ (.comment content) => content
  | .child _ _ (.instruction _ value) => value
  | .child _ _ node => nodeText node
  | .attribute _ _ attr => attr.value
  | .binding _ _ _ uri => uri

/-! ## Tests -/

def isOfType : NodeType → Place → Bool
  | .node, _ => true
  | .text, .child _ _ (.text _) => true
  | .comment, .child _ _ (.comment _) => true
  | .instruction none, .child _ _ (.instruction _ _) => true
  | .instruction (some wanted), .child _ _ (.instruction target _) => target == wanted
  | _, _ => false

/-- Whether a place is of the kind that an axis is made for. -/
def isPrincipal : Axis → Place → Bool
  | .attribute, .attribute _ _ _ => true
  | .binding, .binding _ _ _ _ => true
  | .attribute, _ | .binding, _ => false
  | _, place => place.tag?.isSome

/-- Whether a place has the local name and no namespace; a star stands for any name. -/
def isNamed (localPart : String) (place : Place) : Bool :=
  localPart == "*" || place.expandedName? == some (none, localPart)

/-! ## The documentation tree -/

def toNodes : Place → List Node
  | .root document => XmlNode.toNodes document.nodes
  | .child _ _ node => (XmlNode.toNode? node).toList
  | .attribute _ _ attr => [.text attr.value]
  | .binding _ _ _ _ => []

end Place

end DocPreview.XPath

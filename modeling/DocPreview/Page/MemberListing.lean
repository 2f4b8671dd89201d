import DocPreview.Comment.CodeReference
import DocPreview.Declaration.Basic

/-!
# The listing of members

The members of a type as a table in a fixed order, with one filter box for every kind and every
visibility that occurs among them.
-/

set_option autoImplicit false

namespace DocPreview

namespace MemberKind

def listingOrder : List MemberKind :=
  [.constructor, .property, .method, .event, .field, .operator]

def rank : MemberKind → Nat
  | .constructor => 0
  | .property => 1
  | .method => 2
  | .event => 3
  | .field => 4
  | .operator => 5

def slug : MemberKind → String
  | .constructor => "constructor"
  | .method => "method"
  | .property => "property"
  | .event => "event"
  | .field => "field"
  | .operator => "operator"

def plural : MemberKind → String
  | .constructor => "Constructors"
  | .method => "Methods"
  | .property => "Properties"
  | .event => "Events"
  | .field => "Fields"
  | .operator => "Operators"

def referenceLetter : MemberKind → String
  | .constructor | .method | .operator => "M"
  | .property => "P"
  | .event => "E"
  | .field => "F"

end MemberKind

namespace Visibility

def listingOrder : List Visibility :=
  [.publicLevel, .protectedLevel, .protectedInternalLevel, .internalLevel, .privateLevel]

def slug : Visibility → String
  | .publicLevel => "public"
  | .privateLevel => "private"
  | .protectedLevel => "protected"
  | .internalLevel => "internal"
  | .protectedInternalLevel => "protected-internal"

def label : Visibility → String
  | .publicLevel => "Public"
  | .privateLevel => "Private"
  | .protectedLevel => "Protected"
  | .internalLevel => "Internal"
  | .protectedInternalLevel => "Protected Internal"

end Visibility

namespace MemberListing

/-- Whether a member may stand before another: by kind, then by name. -/
def precedes (left right : MemberSummary) : Bool :=
  left.kind.rank < right.kind.rank ||
    (left.kind.rank == right.kind.rank && left.name ≤ right.name)

/-- The members in the order of the listing. Members of one kind and name keep their order. -/
def sorted (members : List MemberSummary) : List MemberSummary :=
  members.mergeSort precedes

/-- The style classes that filter boxes refer to: those of the kinds and the visibilities that
occur, each with the label of its box. -/
def filters (members : List MemberSummary) : List (String × String) :=
  (MemberKind.listingOrder.filter fun kind => members.any (·.kind == kind)).map
    (fun kind => ("kind-" ++ kind.slug, kind.plural)) ++
  (Visibility.listingOrder.filter fun level => members.any (·.visibility == level)).map
    (fun level => ("visibility-" ++ level.slug, level.label))

def filterBox (styleClass label : String) : Html :=
  .tagged "label" []
    [.element "input"
      [("type", "checkbox"), ("checked", "checked"), ("data-filter", styleClass)] [] true,
     .text (" " ++ label)]

def icons (member : MemberSummary) : List Html :=
  .tagged "span"
    [("class", "icon icon-" ++ member.kind.slug ++ "-" ++ member.visibility.slug),
     ("title", member.visibility.label ++ " " ++ member.kind.label)] [] ::
  (if member.isStatic then
    [.tagged "span" [("class", "icon icon-static"), ("title", "Static")] []]
  else [])

def rowClass (member : MemberSummary) : String :=
  "member kind-" ++ member.kind.slug ++ " visibility-" ++ member.visibility.slug ++
    (if member.isStatic then " static" else "")

def row (owner : String) (member : MemberSummary) : Html :=
  let reference := member.kind.referenceLetter ++ ":" ++ owner ++ "." ++ member.name
  .classed "tr" (rowClass member)
    [.classed "td" "icons" (icons member),
     .tagged "td" [] [CodeReference.link reference (some [.text member.name])],
     .tagged "td" [] [.text member.summary]]

def headings : Html :=
  .tagged "tr" []
    [.tagged "th" [] [], .tagged "th" [] [.text "Name"], .tagged "th" [] [.text "Description"]]

/-- The filter boxes and the table of the members of a type; none when there is nothing to
list. -/
def markup? (declaration : Declaration) : Option (List Html) :=
  if !declaration.kind.isType || declaration.members.isEmpty then none
  else
    let owner := ".".intercalate declaration.path
    some
      [.classed "div" "filters"
        ((filters declaration.members).map fun (styleClass, label) =>
          filterBox styleClass label),
       .classed "table" "members"
        (headings :: (sorted declaration.members).map (row owner))]

end MemberListing

end DocPreview

import DocPreview.Page.Content

/-!
# The layout of a page

The children of the root are sorted into groups by their tag. The notices and the summary come
first, then all that has no place of its own in source order, then the signature, and then the
remaining groups in a fixed order. A group that is framed as one section shows only when it has
something to show.
-/

set_option autoImplicit false

namespace DocPreview

/-- Signature tokens as classed spans inside a preformatted block. -/
def Signature.markup (signature : Signature) : Html :=
  .classed "pre" "syntax"
    [.tagged "code" [] (signature.tokens.map fun token =>
      match token.tokenClass.styleClass? with
      | some styleClass => .classed "span" styleClass [.text token.text]
      | none => .text token.text)]

namespace Layout

/-- The tags that have a place of their own on the page. -/
def placedTags : List String :=
  [errorTag, "obsolete", "preliminary", "summary", "typeparam", "param", "returns", "value",
   "exception", "permission", "event", "remarks", "example", "threadsafety", "seealso"]

def group (children : List Reading) (name : String) : List Reading :=
  children.filter fun child =>
    match child with
    | .text _ => false
    | .element childName _ _ _ => childName == name

def groupContents (children : List Reading) (name : String) : Rendered (List Html) :=
  Reading.contents (group children name)

def groupsContents (children : List Reading) (names : List String) : Rendered (List Html) :=
  Rendered.concat (names.map (groupContents children))

/-- The children that have no place of their own. Blank texts are left out. -/
def flow (children : List Reading) : List Reading :=
  children.filter fun child =>
    match child with
    | .text content => !isBlankText content
    | .element name _ _ _ => !placedTags.contains name

def syntaxSection (chrome : Chrome) (signature : Signature) : Rendered (List Html) :=
  ⟨[chrome.titled "syntax" "Syntax" [signature.markup]], true⟩

/-- A section around markup that stands in a frame; none when there is no markup. -/
def framedSection (chrome : Chrome) (id title : String) (frame : List Html → Html)
    (contents : Rendered (List Html)) : Rendered (List Html) := do
  let contents ← contents
  return if contents.isEmpty then [] else [chrome.titled id title [frame contents]]

def definitionSection (chrome : Chrome) (id title : String) (contents : Rendered (List Html)) :
    Rendered (List Html) :=
  framedSection chrome id title (.tagged "dl" []) contents

def tableSection (chrome : Chrome) (id title first second : String)
    (contents : Rendered (List Html)) : Rendered (List Html) :=
  framedSection chrome id title
    (fun rows =>
      .classed "table" "two-column"
        (.tagged "tr" [] [.tagged "th" [] [.text first], .tagged "th" [] [.text second]] ::
          rows))
    contents

/-- A list item around the markup of a link; none when the link shows nothing. -/
def linkItem (link : Reading) : Rendered (List Html) := do
  let contents ← link.markup
  return if contents.isEmpty then [] else [.tagged "li" [] contents]

def linkSection (chrome : Chrome) (links : List Reading) : Rendered (List Html) :=
  framedSection chrome "see-also" "See Also" (.classed "ul" "see-also")
    (Rendered.concat (links.map linkItem))

/-- The body of a page. The listing stands before the links. -/
def page (chrome : Chrome) (listing : Declaration → List Html) : Handler :=
  fun setting root =>
    let children := root.children
    Rendered.concat
      [pure [chrome.banner setting.declaration setting.dialect],
       groupsContents children [errorTag, "obsolete", "preliminary", "summary"],
       Reading.contents (flow children),
       syntaxSection chrome setting.signature,
       definitionSection chrome "type-parameters" "Type Parameters"
         (groupContents children "typeparam"),
       definitionSection chrome "parameters" "Parameters" (groupContents children "param"),
       groupsContents children ["returns", "value"],
       tableSection chrome "exceptions" "Exceptions" "Exception" "Condition"
         (groupContents children "exception"),
       tableSection chrome "permissions" "Permissions" "Permission" "Description"
         (groupContents children "permission"),
       tableSection chrome "events" "Events" "Event" "Description"
         (groupContents children "event"),
       groupsContents children ["remarks", "example", "threadsafety"],
       pure (listing setting.declaration),
       linkSection chrome (group children "seealso")]

end Layout

end DocPreview

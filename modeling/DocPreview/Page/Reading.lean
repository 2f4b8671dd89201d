import DocPreview.Comment.Links
import DocPreview.Html.Basic
import DocPreview.Options.Basic
import DocPreview.Page.Rendered
import DocPreview.Signature.Token
import DocPreview.Declaration.Basic
import DocPreview.Dialect

/-!
# Reading a comment

A comment is read from the leaves up: every element gets its markup once all its children have
theirs. A recognized element is read by the handler that the style has for its tag, an
unrecognized one by the policy of the options. A handler sees the children with their markup,
and uses as much of it as the tag means to show.
-/

set_option autoImplicit false

namespace DocPreview

/-- A node of the comment with its markup. -/
inductive Reading where
  | text (content : String)
  | element (name : String) (attributes : List (String × String))
      (markup : Rendered (List Html)) (children : List Reading)

namespace Reading

/-- The markup of a node. A text stands for itself. -/
def markup : Reading → Rendered (List Html)
  | .text content => ⟨[.text content], false⟩
  | .element _ _ markup _ => markup

def contents (nodes : List Reading) : Rendered (List Html) :=
  Rendered.concat (nodes.map markup)

mutual

def node : Reading → Node
  | .text content => .text content
  | .element name attributes _ children => .element name attributes (nodes children)

def nodes : List Reading → List Node
  | [] => []
  | reading :: rest => node reading :: nodes rest

end

def linkTarget? : Reading → Option (String × String)
  | .text _ => none
  | .element name attributes _ _ => DocPreview.linkTarget? name attributes

end Reading

/-- An element whose children have been read, as a handler sees it. -/
structure Tag where
  name : String
  attributes : List (String × String)
  children : List Reading

namespace Tag

def ofReading? : Reading → Option Tag
  | .text _ => none
  | .element name attributes _ children => some ⟨name, attributes, children⟩

def element (tag : Tag) : Element :=
  ⟨tag.name, tag.attributes, Reading.nodes tag.children⟩

def attribute? (tag : Tag) (name : String) : Option String :=
  tag.attributes.lookup name

def childTags (tag : Tag) : List Tag :=
  tag.children.filterMap ofReading?

def find? (tag : Tag) (name : String) : Option Tag :=
  tag.childTags.find? (·.name == name)

def contents (tag : Tag) : Rendered (List Html) :=
  Reading.contents tag.children

def isBlank (tag : Tag) : Bool :=
  tag.element.isBlank

def suppressDuplicateLinks (tag : Tag) : Tag :=
  { tag with children := keepFirst Reading.linkTarget? [] tag.children }

end Tag

/-- What a handler knows besides the element: the options, the declaration that the comment
belongs to, and its signature in the dialect of the page. -/
structure Setting where
  options : OptionSet
  declaration : Declaration
  dialect : Dialect
  signature : Signature

abbrev Handler : Type :=
  Setting → Tag → Rendered (List Html)

structure Registry where
  handlers : List (String × Handler) := []
  /-- Takes the tags that have no handler of their own. -/
  fallback : Option Handler := none

namespace Registry

def lookup (registry : Registry) (tag : String) : Option Handler :=
  (registry.handlers.lookup tag).or registry.fallback

def unhandled (registry : Registry) (tags : List String) : List String :=
  tags.filter fun tag => (registry.lookup tag).isNone

end Registry

/-- How a style frames a page and its sections. -/
structure Chrome where
  /-- The heading of the page. -/
  banner : Declaration → Dialect → Html
  /-- A section with its identifier, its title and what it holds. -/
  titled : String → String → List Html → Html

structure Style extends Chrome where
  name : String
  /-- The page around the body, with `bodyMark` where the body goes. -/
  skeleton : String
  registry : Registry

def bodyMark : String := "<!--xmldoc:body-->"

namespace Style

/-- The markup that a handler makes of an element, with repeated references dropped first when
the options ask for it. -/
def dispatch (setting : Setting) (handler : Handler) (tag : Tag) : Rendered (List Html) :=
  handler setting
    (if setting.options.suppressDuplicateLinks then tag.suppressDuplicateLinks else tag)

def unrecognized (policy : TagPolicy) (tag : Tag) : Rendered (List Html) :=
  match policy with
  | .hide => pure []
  | .strip => tag.contents
  | .highlight => pure [.classed "span" "unrecognized" [.text tag.element.toXml]]
  | .render => do
    if tag.children.isEmpty then return [.element tag.name tag.attributes [] true]
    else
      let contents ← tag.contents
      return [.tagged tag.name tag.attributes contents]

/-- The markup of an element. A recognized tag that no handler takes shows nothing. -/
def markup (style : Style) (setting : Setting) (tag : Tag) : Rendered (List Html) :=
  if tag.name == errorTag then
    pure [.classed "p" "error" [.text tag.element.textContent]]
  else if setting.options.isRecognized tag.name then
    match style.registry.lookup tag.name with
    | some handler => dispatch setting handler tag
    | none => pure []
  else unrecognized setting.options.tagPolicy tag

mutual

def read (style : Style) (setting : Setting) : Node → Reading
  | .text content => .text content
  | .element name attributes children =>
    let readings := readAll style setting children
    .element name attributes (style.markup setting ⟨name, attributes, readings⟩) readings

def readAll (style : Style) (setting : Setting) : List Node → List Reading
  | [] => []
  | node :: nodes => read style setting node :: readAll style setting nodes

end

def apply (style : Style) (setting : Setting) (element : Element) : Rendered (List Html) :=
  (read style setting element.node).markup

/-- The markup of a whole comment. The handler for the root takes it whatever its tag is and
whether or not that tag is recognized. -/
def applyRoot (style : Style) (setting : Setting) (root : Element) : Rendered (List Html) :=
  let readings := readAll style setting root.children
  match style.registry.lookup rootTag with
  | some handler => dispatch setting handler ⟨root.name, root.attributes, readings⟩
  | none => Reading.contents readings

end Style

end DocPreview

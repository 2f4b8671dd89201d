import DocPreview.Text.Blank

/-!
# The documentation tree

A comment is a tree of elements and texts. Its XML form escapes what would read as markup, and
an element without children is written as a self-closing tag. An element of the name `errorTag`
stands for a failure and holds its message.
-/

set_option autoImplicit false

namespace DocPreview

inductive Node where
  | text (content : String)
  | element (name : String) (attributes : List (String × String)) (children : List Node)
deriving Inhabited

structure Element where
  name : String := ""
  attributes : List (String × String) := []
  children : List Node := []
deriving Inhabited

/-- The name of the element around a whole comment. -/
def rootTag : String := "member"

/-- The name of the elements that stand for failures. -/
def errorTag : String := "xmldoc-error"

def Element.node (element : Element) : Node :=
  .element element.name element.attributes element.children

namespace Node

def element? : Node → Option Element
  | .text _ => none
  | .element name attributes children => some ⟨name, attributes, children⟩

def error (message : String) : Node :=
  .element errorTag [] [.text message]

mutual

def textContent : Node → String
  | .text content => content
  | .element _ _ children => textContents children

def textContents : List Node → String
  | [] => ""
  | node :: nodes => textContent node ++ textContents nodes

end

/-- Whether a node is a text of nothing but blanks. -/
def isBlank : Node → Bool
  | .text content => isBlankText content
  | .element _ _ _ => false

def escapeChar : Char → List Char
  | '&' => ['&', 'a', 'm', 'p', ';']
  | '<' => ['&', 'l', 't', ';']
  | '>' => ['&', 'g', 't', ';']
  | char => [char]

/-- A character as it stands in an attribute value between double quotes. -/
def escapeQuoted : Char → List Char
  | '"' => ['&', 'q', 'u', 'o', 't', ';']
  | char => escapeChar char

/-- The attributes of a tag, each behind a space. -/
def attributesXml (attributes : List (String × String)) : String :=
  String.join (attributes.map fun (name, value) =>
    " " ++ name ++ "=\"" ++ String.ofList (value.toList.flatMap escapeQuoted) ++ "\"")

mutual

def toXml : Node → String
  | .text content => String.ofList (content.toList.flatMap escapeChar)
  | .element name attributes [] => "<" ++ name ++ attributesXml attributes ++ "/>"
  | .element name attributes (child :: children) =>
    "<" ++ name ++ attributesXml attributes ++ ">" ++ toXml child ++ toXmlAll children ++
      "</" ++ name ++ ">"

def toXmlAll : List Node → String
  | [] => ""
  | node :: nodes => toXml node ++ toXmlAll nodes

end

end Node

namespace Element

def attribute? (element : Element) (name : String) : Option String :=
  element.attributes.lookup name

def childElements (element : Element) : List Element :=
  element.children.filterMap Node.element?

def find? (element : Element) (name : String) : Option Element :=
  element.childElements.find? (·.name == name)

def textContent (element : Element) : String :=
  Node.textContents element.children

/-- Whether the element holds neither an element nor a text that shows. -/
def isBlank (element : Element) : Bool :=
  element.children.all Node.isBlank

def isError (element : Element) : Bool :=
  element.name == errorTag

def toXml (element : Element) : String :=
  element.node.toXml

end Element

end DocPreview

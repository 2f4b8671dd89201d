/-!
# HTML fragments

Markup is built as a tree and serialized once. Serialization escapes every text and every
attribute value, so that neither can end the markup it stands in.
-/

set_option autoImplicit false

namespace DocPreview

inductive Html where
  | text (content : String)
  /-- An element. One without children is written `<tag/>` when it is self-closing. -/
  | element (tag : String) (attributes : List (String × String)) (children : List Html)
      (selfClosing : Bool)
deriving Inhabited

namespace Html

/-- An element that is written with a closing tag. -/
def tagged (tag : String) (attributes : List (String × String)) (children : List Html) : Html :=
  .element tag attributes children false

def classed (tag styleClass : String) (children : List Html) : Html :=
  .element tag [("class", styleClass)] children false

/-- A character as it stands in text or in an attribute value. -/
def escapeChar : Char → List Char
  | '&' => ['&', 'a', 'm', 'p', ';']
  | '<' => ['&', 'l', 't', ';']
  | '>' => ['&', 'g', 't', ';']
  | '"' => ['&', 'q', 'u', 'o', 't', ';']
  | char => [char]

/-- The text with the four markup characters written as entities. -/
def escape (text : String) : String :=
  String.ofList (text.toList.flatMap escapeChar)

def attributesText (attributes : List (String × String)) : String :=
  String.join (attributes.map fun (name, value) => " " ++ name ++ "=\"" ++ escape value ++ "\"")

mutual

def write : Html → String
  | .text content => escape content
  | .element tag attributes children selfClosing =>
    if selfClosing && children.isEmpty then "<" ++ tag ++ attributesText attributes ++ "/>"
    else
      "<" ++ tag ++ attributesText attributes ++ ">" ++ writeAll children ++ "</" ++ tag ++ ">"

def writeAll : List Html → String
  | [] => ""
  | node :: nodes => write node ++ writeAll nodes

end

mutual

def textContent : Html → String
  | .text content => content
  | .element _ _ children _ => textContents children

def textContents : List Html → String
  | [] => ""
  | node :: nodes => textContent node ++ textContents nodes

end

mutual

/-- The elements with this tag in the node, outermost first and in document order. -/
def findAll (tag : String) : Html → List Html
  | .text _ => []
  | .element name attributes children selfClosing =>
    (if name == tag then [.element name attributes children selfClosing] else []) ++
      findAllIn tag children

def findAllIn (tag : String) : List Html → List Html
  | [] => []
  | node :: nodes => findAll tag node ++ findAllIn tag nodes

end

def attribute? (name : String) : Html → Option String
  | .text _ => none
  | .element _ attributes _ _ => attributes.lookup name

end Html

end DocPreview

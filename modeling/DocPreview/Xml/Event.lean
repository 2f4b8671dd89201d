import DocPreview.Xml.Scanner

/-!
# The events of an XML text

Reading a text gives a sequence of events: the pieces of markup and content in the order in
which they stand. What may come next depends on whether a document, a tag, an attribute value
or content is being read. Whether names match, prefixes are bound and references mean something
is not decided here.
-/

set_option autoImplicit false

namespace DocPreview.Xml

/-- A value with the number of characters left where it begins. -/
structure Located (α : Type) where
  value : α
  remaining : Nat
deriving DecidableEq, Repr

inductive ReferenceKind where
  | named | decimal | hex
deriving DecidableEq, Repr

/-- A character reference: its kind and what stands before the semicolon. -/
structure Reference where
  kind : ReferenceKind
  text : Located String
deriving DecidableEq, Repr

inductive Event where
  /-- A declaration, or white space outside the root element. -/
  | prolog
  | comment (text : String)
  | instruction (target : String) (value : Option String)
  | openTag (name : Located QName)
  | openAttribute (name : Located QName)
  | attributeText (text : String)
  | attributeReference (reference : Reference)
  | closeAttribute
  | endTag
  | endEmptyTag
  | closeTag (name : Located QName)
  | text (text : String)
  | reference (reference : Reference)
deriving DecidableEq, Repr

/-- What is being read. The depth counts the open elements, that of an open tag included. -/
inductive Phase where
  /-- The very beginning of the text. -/
  | beginning
  /-- Before the root element. -/
  | beforeRoot
  /-- Behind the name of an opening tag or one of its attributes. -/
  | tag (depth : Nat)
  /-- Inside an attribute value. -/
  | value (depth : Nat) (quote : Char)
  | content (depth : Nat)
  | afterRoot
deriving DecidableEq, Repr

/-- The phase behind a closed element, where `depth` counts it as open. -/
def Phase.afterElement (depth : Nat) : Phase :=
  if depth ≤ 1 then .afterRoot else .content (depth - 1)

namespace Scanner

def located {α : Type} (scanner : Scanner α) : Scanner (Located α) := do
  let remaining ← position
  let value ← scanner
  pure ⟨value, remaining⟩

/-! ## Markup -/

def elementMark : Scanner Unit := fun input =>
  match input.chars with
  | '<' :: '?' :: _ | '<' :: '!' :: _ | '<' :: '/' :: _ => fail .expectedElement input
  | '<' :: _ => take 1 () input
  | _ => fail .expectedElement input

def openTag : Scanner Event := do
  elementMark
  let name ← located (qualifiedName .expectedElementName)
  pure (.openTag name)

def closeTag : Scanner Event := do
  literal "</"
  let name ← located (qualifiedName .expectedElementName)
  space?
  literal ">"
  pure (.closeTag name)

def endsText : List Char → Bool
  | '<' :: _ | '&' :: _ | ']' :: ']' :: '>' :: _ => true
  | _ => false

def textBefore : List Char → List Char
  | [] => []
  | char :: chars =>
    if endsText (char :: chars) then [] else char :: textBefore chars

/-- Character data. Only at the end of the input may it be empty. -/
def characterData : Scanner Event := fun input =>
  if endsText input.chars then fail .expectedCharacterData input
  else
    let text := textBefore input.chars
    take text.length (.text (String.ofList text)) input

def characterSection : Scanner Event := do
  literal "<![CDATA["
  let text ← upTo .expectedCData "]]>"
  literal "]]>"
  pure (.text (String.ofList text))

/-- A reference of one kind between its opening and the semicolon. -/
def referenceOf (kind : ReferenceKind) (problem : Problem) (opening : String)
    (value : Scanner String) : Scanner Reference := do
  literalOr problem opening
  let text ← located value
  literal ";"
  pure ⟨kind, text⟩

def digits (problem : Problem) (isDigit : Char → Bool) : Scanner String := do
  let digits ← runOf problem isDigit
  pure (String.ofList digits)

def isDecimalDigit (char : Char) : Bool :=
  '0' ≤ char && char ≤ '9'

def isHexDigit (char : Char) : Bool :=
  isDecimalDigit char || ('a' ≤ char && char ≤ 'f') || ('A' ≤ char && char ≤ 'F')

def reference : Scanner Reference :=
  firstOf (referenceOf .named .expectedNamedReference "&" (name .expectedNamedValue))
    [referenceOf .decimal .expectedDecimalReference "&#"
      (digits .expectedDecimalValue isDecimalDigit),
     referenceOf .hex .expectedHexReference "&#x" (digits .expectedHexValue isHexDigit)]

def comment : Scanner Event := do
  literalOr .expectedComment "<!--"
  let text ← upTo .expectedCommentBody "--"
  literal "-->"
  pure (.comment (String.ofList text))

/-- A processing instruction. The target `xml` is reserved in any case of its letters. -/
def instruction : Scanner Event := do
  literalOr .expectedInstruction "<?"
  let target ← located (name .expectedInstructionTarget)
  let value ← optional do
    space
    upTo .expectedInstructionValue "?>"
  literal "?>"
  if asciiLower target.value == "xml" then
    fun _ => ⟨none, .error ⟨target.remaining, [.invalidInstructionTarget]⟩⟩
  else pure (.instruction target.value (value.map String.ofList))

def blank : Scanner Event := do
  space
  pure .prolog

/-! ## Attributes -/

/-- The name of an attribute up to the quote that opens its value. -/
def openAttribute (depth : Nat) : Scanner (Event × Phase) := do
  space
  let name ← located (qualifiedName .expectedAttribute)
  equals
  let quote ← either
    (do literalOr (.expectedOpeningQuote "\"") "\""; pure '"')
    (do literalOr (.expectedOpeningQuote "'") "'"; pure '\'')
  pure (.openAttribute name, .value depth quote)

def attributeLiteral (problem : Problem) (quote : Char) : Scanner String := do
  let text ← runOf problem fun char => char != '&' && char != '<' && char != quote
  pure (String.ofList text)

def closeAttribute (quote : Char) : Scanner Event := do
  let mark := String.singleton quote
  literalOr (.expectedClosingQuote mark) mark
  pure .closeAttribute

def endTag : Scanner Event := do
  space?
  literalOr .expectedElementEnd ">"
  pure .endTag

def endEmptyTag : Scanner Event := do
  space?
  literalOr .expectedElementSelfClosed "/>"
  pure .endEmptyTag

/-! ## Declarations -/

/-- A version number, of which only the part behind `1.` is free. -/
def versionNumber : Scanner Unit := do
  literalOr .expectedVersionNumber "1."
  let _ ← runOf .expectedVersionNumber isDecimalDigit
  pure ()

def encodingName : Scanner Unit := do
  let _ ← nameOf .expectedEncoding Char.isAlpha fun char =>
    char.isAlphanum || char == '.' || char == '_' || char == '-'
  pure ()

/-- One of the two words. The second is tried before the reading ends because neither stands
there. -/
def yesOrNo : Scanner Unit :=
  either (literal "yes") (literalOr .expectedYesNo "no")

def headItem (itemName : String) (value : Scanner Unit) : Scanner Unit := do
  space
  literal itemName
  equals
  quoted fun _ => value

def xmlDeclaration : Scanner Event := do
  literal "<?xml"
  headItem "version" versionNumber
  let _ ← optional (headItem "encoding" encodingName)
  let _ ← optional (headItem "standalone" yesOrNo)
  space?
  literal "?>"
  pure .prolog

/-- Where the outer part of a document type is found. -/
def systemIdentifier : Scanner Unit := do
  space
  literal "SYSTEM"
  space
  let _ ← quoted (attributeLiteral .expectedSystemLiteral)
  pure ()

/-- The inner part of a document type, which is not looked into. -/
def innerSubset : Scanner Unit := do
  literal "["
  space?
  let _ ← upTo .expectedSubset "]"
  literal "]"
  space?

def documentType : Scanner Event := do
  literal "<!DOCTYPE"
  space
  let _ ← name .expectedDocumentTypeName
  let _ ← optional systemIdentifier
  space?
  let _ ← optional innerSubset
  literal ">"
  pure .prolog

/-! ## Phases -/

def andThen (phase : Phase) (scanner : Scanner Event) : Scanner (Event × Phase) := do
  let event ← scanner
  pure (event, phase)

def nextEvent : Phase → Scanner (Event × Phase)
  | .beginning =>
    firstOf (andThen .beforeRoot xmlDeclaration)
      [andThen (.tag 1) openTag, andThen .beforeRoot blank, andThen .beforeRoot comment,
       andThen .beforeRoot instruction]
  | .beforeRoot =>
    firstOf (andThen .beforeRoot documentType)
      [andThen (.tag 1) openTag, andThen .beforeRoot blank, andThen .beforeRoot comment,
       andThen .beforeRoot instruction]
  | .tag depth =>
    firstOf (openAttribute depth)
      [andThen (.content depth) endTag, andThen (.afterElement depth) endEmptyTag]
  | .value depth quote =>
    firstOf
      (andThen (.value depth quote) do
        let text ← attributeLiteral .expectedAttributeValue quote
        pure (.attributeText text))
      [andThen (.value depth quote) do
        let reference ← reference
        pure (.attributeReference reference),
       andThen (.tag depth) (closeAttribute quote)]
  | .content depth =>
    firstOf (andThen (.tag (depth + 1)) openTag)
      [andThen (.afterElement depth) closeTag,
       andThen (.content depth) characterData,
       andThen (.content depth) characterSection,
       andThen (.content depth) do
        let reference ← reference
        pure (.reference reference),
       andThen (.content depth) comment,
       andThen (.content depth) instruction]
  | .afterRoot =>
    firstOf (andThen .afterRoot comment) [andThen .afterRoot instruction, andThen .afterRoot blank]

end Scanner

/-- The failure that is reported for an attempt that failed: a fatal one alone, any other
together with what was noted on the way. -/
def reported (noted : Option Failure) (failure : Failure) : Failure :=
  if failure.isFatal then failure
  else
    match noted with
    | none => failure
    | some noted => noted.further failure

/-- The events of a text from the given phase on, and the failure that ends them if it cannot be
read to its end. Nothing may follow the root element's trailing comments, so the text may end
there; elsewhere an event that takes no character ends the reading. -/
def events (phase : Phase) (input : Input) : List Event × Option Failure :=
  if phase = .afterRoot ∧ input.size = 0 then ([], none)
  else
    match Scanner.nextEvent phase input with
    | ⟨noted, .error failure⟩ => ([], some (reported noted failure))
    | ⟨_, .ok ((event, next), rest)⟩ =>
      if rest.size < input.size then
        let (following, failure) := events next rest
        (event :: following, failure)
      else ([], none)
termination_by input.size

end DocPreview.Xml

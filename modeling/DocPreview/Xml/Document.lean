import DocPreview.Comment.Element
import DocPreview.Xml.Event

/-!
# XML documents

A document is built from its events: tags are matched, references replaced, attributes sorted by
name and prefixes bound to namespaces. Every run of characters, every character section and
every reference in content is a text node of its own.
-/

set_option autoImplicit false

namespace DocPreview.Xml

/-- Prefixes with the namespaces that one element binds them to. -/
abbrev Bindings : Type := List (String × String)

/-- The namespace that a prefix is bound to by the first of the elements that binds it. -/
def innermostUri? (levels : List Bindings) (space : String) : Option String :=
  levels.findSome? (·.lookup space)

structure XmlAttribute where
  name : QName
  uri : Option String
  value : String
deriving DecidableEq, Repr

structure StartTag where
  name : QName
  /-- The namespace of the name. -/
  uri : Option String
  /-- The default namespace that this element declares. -/
  ownDefault : Option String
  /-- The prefixes that this element binds. -/
  ownBindings : Bindings
  /-- What each of the elements around it binds, innermost first. -/
  outerBindings : List Bindings
  attributes : List XmlAttribute
deriving DecidableEq, Repr

/-- What the element and each of those around it bind, innermost first. -/
def StartTag.levels (tag : StartTag) : List Bindings :=
  tag.ownBindings :: tag.outerBindings

inductive XmlNode where
  | element (tag : StartTag) (children : List XmlNode)
  | text (content : String)
  | comment (content : String)
  | instruction (target : String) (value : String)
deriving Inhabited

structure Document where
  nodes : List XmlNode

/-! ## References -/

/-- The characters that have a name in every document. -/
def namedCharacters : List (String × String) :=
  [("amp", "&"), ("lt", "<"), ("gt", ">"), ("apos", "'"), ("quot", "\"")]

def digitValue (char : Char) : Nat :=
  if isDigit char then char.toNat - 48
  else if 'a' ≤ char then char.toNat - 87
  else char.toNat - 55
where
  isDigit (char : Char) : Bool := '0' ≤ char && char ≤ '9'

def digitsValue (base : Nat) (digits : List Char) : Nat :=
  digits.foldl (fun value digit => value * base + digitValue digit) 0

def scalarText? (code : Nat) : Option String :=
  if code < 0xD800 ∨ (0xDFFF < code ∧ code < 0x110000) then
    some (String.singleton (Char.ofNat code))
  else none

def failureAt {α : Type} (located : Located α) (problem : Problem) : Failure :=
  ⟨located.remaining, [problem]⟩

def Reference.decode (reference : Reference) : Except Failure String :=
  let text := reference.text.value
  let found :=
    match reference.kind with
    | .named => (namedCharacters.lookup text, Problem.unknownNamedReference)
    | .decimal =>
      (scalarText? (digitsValue 10 text.toList), Problem.invalidDecimalReference)
    | .hex => (scalarText? (digitsValue 16 text.toList), Problem.invalidHexReference)
  match found with
  | (some text, _) => .ok text
  | (none, problem) => .error (failureAt reference.text problem)

inductive ValuePart where
  | text (text : String)
  | reference (reference : Reference)

def decodeValue : List ValuePart → Except Failure String
  | [] => .ok ""
  | .text text :: parts => do
    let rest ← decodeValue parts
    return text ++ rest
  | .reference reference :: parts => do
    let text ← reference.decode
    let rest ← decodeValue parts
    return text ++ rest

/-! ## Opening tags -/

structure WrittenAttribute where
  name : Located QName
  value : List ValuePart

def firstRepeated? : List WrittenAttribute → Option WrittenAttribute
  | first :: second :: rest =>
    if first.name.value = second.name.value then some second
    else firstRepeated? (second :: rest)
  | _ => none

/-- Refuses two neighbours of one name. -/
def refuseRepeated (problem : Problem) (attributes : List WrittenAttribute) :
    Except Failure Unit :=
  match firstRepeated? attributes with
  | some repeated => .error (failureAt repeated.name problem)
  | none => .ok ()

/-- The default namespace that a tag declares, which may be empty. -/
def declaredDefault (defaults : List WrittenAttribute) : Except Failure (Option String) :=
  match defaults with
  | [] => .ok none
  | [only] => do return some (← decodeValue only.value)
  | first :: second :: rest =>
    .error (failureAt ((second :: rest).getLastD first).name .redefinedDefaultNamespace)

/-- A prefix with the namespace that it is bound to, which may not be empty. -/
def declaredBinding (attr : WrittenAttribute) : Except Failure (String × String) := do
  let uri ← decodeValue attr.value
  if uri.isEmpty then .error (failureAt attr.name .emptyNamespace)
  else return (attr.name.value.localPart, uri)

/-- The namespace of a prefixed name; none for a name without a prefix. -/
def boundUri (levels : List Bindings) (name : Located QName) :
    Except Failure (Option String) :=
  match name.value.space with
  | none => .ok none
  | some space =>
    match innermostUri? levels space with
    | some uri => .ok (some uri)
    | none => .error (failureAt name .unknownNamespacePrefix)

/-- The attributes with one more. It replaces one of the same local name and namespace. -/
def addAttribute (attributes : List XmlAttribute) (added : XmlAttribute) : List XmlAttribute :=
  attributes.filter (fun attr =>
    !(attr.name.localPart == added.name.localPart && attr.uri == added.uri)) ++ [added]

/-- The attributes with their values and namespaces. -/
def resolveAttributes (levels : List Bindings) :
    List XmlAttribute → List WrittenAttribute → Except Failure (List XmlAttribute)
  | resolved, [] => .ok resolved
  | resolved, attr :: rest => do
    let value ← decodeValue attr.value
    let uri ← boundUri levels attr.name
    resolveAttributes levels (addAttribute resolved ⟨attr.name.value, uri, value⟩) rest

def xmlUri : String := "http://www.w3.org/XML/1998/namespace"

/-- What the elements around a tag declare. -/
structure Surroundings where
  /-- Whether the tag is that of the root element. -/
  isRoot : Bool
  /-- What each of the elements binds, innermost first. -/
  levels : List Bindings
  defaultUri : Option String

/-- What an element binds, given what it declares: the root element also binds `xml`, whatever it
declares for that prefix. -/
def Surroundings.bindingsOf (around : Surroundings) (declared : Bindings) : Bindings :=
  if around.isRoot then ("xml", xmlUri) :: declared.filter (·.1 != "xml") else declared

/-- The tag that a name and its attributes make. The name is read with what the element declares,
its attributes with what it binds. -/
def resolveTag (around : Surroundings) (name : Located QName)
    (written : List WrittenAttribute) : Except Failure StartTag := do
  let sorted := written.mergeSort fun left right => left.name.value.precedes right.name.value
  let isBinding (attr : WrittenAttribute) := attr.name.value.space == some "xmlns"
  let isDefault (attr : WrittenAttribute) :=
    !isBinding attr && attr.name.value.localPart == "xmlns"
  let attributes := sorted.filter fun attr => !isBinding attr && !isDefault attr
  let bindings := sorted.filter isBinding
  refuseRepeated .duplicateAttribute attributes
  refuseRepeated .redefinedNamespace bindings
  let ownDefault ← declaredDefault (sorted.filter isDefault)
  let declared ← bindings.mapM declaredBinding
  let prefixUri ← boundUri (declared :: around.levels) name
  let (uri, ownDefault) :=
    match name.value.space, ownDefault with
    | some _, _ => (prefixUri, none)
    | none, some "" => (none, none)
    | none, some uri => (some uri, some uri)
    | none, none => (around.defaultUri, none)
  let ownBindings := around.bindingsOf declared
  let resolved ← resolveAttributes (ownBindings :: around.levels) [] attributes
  return ⟨name.value, uri, ownDefault, ownBindings, around.levels, resolved⟩

/-! ## Building -/

/-- An element whose closing tag has not come yet. -/
structure OpenElement where
  tag : StartTag
  /-- The default namespace inside the element. -/
  defaultUri : Option String
  /-- The children so far, last first. -/
  children : List XmlNode

structure Building where
  /-- The open elements, innermost first. -/
  openElements : List OpenElement := []
  /-- The nodes of the document so far, last first. -/
  nodes : List XmlNode := []
  /-- The opening tag that is being read, with its attributes, last first. -/
  pending : Option (Located QName × List WrittenAttribute) := none

namespace Building

def add (building : Building) (node : XmlNode) : Building :=
  match building.openElements with
  | [] => { building with nodes := node :: building.nodes }
  | innermost :: outer =>
    { building with
      openElements := { innermost with children := node :: innermost.children } :: outer }

def surroundings (building : Building) : Surroundings :=
  match building.openElements with
  | [] => ⟨true, [], none⟩
  | innermost :: _ => ⟨false, innermost.tag.levels, innermost.defaultUri⟩

def openPending (building : Building) : Except Failure Building :=
  match building.pending with
  | none => .ok building
  | some (name, attributes) => do
    let around := building.surroundings
    let tag ← resolveTag around name attributes.reverse
    let element : OpenElement := ⟨tag, tag.ownDefault.or around.defaultUri, []⟩
    return { building with
      openElements := element :: building.openElements, pending := none }

def close (building : Building) : Building :=
  match building.openElements with
  | [] => building
  | innermost :: outer =>
    { building with openElements := outer }.add
      (.element innermost.tag innermost.children.reverse)

def addPart (building : Building) (part : ValuePart) : Building :=
  match building.pending with
  | some (name, attr :: attributes) =>
    { building with
      pending := some (name, { attr with value := attr.value ++ [part] } :: attributes) }
  | _ => building

def step (building : Building) : Event → Except Failure Building
  | .prolog => .ok building
  | .comment text => .ok (building.add (.comment text))
  | .instruction target value => .ok (building.add (.instruction target (value.getD "")))
  | .openTag name => .ok { building with pending := some (name, []) }
  | .openAttribute name =>
    .ok { building with
      pending := building.pending.map fun (tagName, attributes) =>
        (tagName, ⟨name, []⟩ :: attributes) }
  | .attributeText text => .ok (building.addPart (.text text))
  | .attributeReference reference => .ok (building.addPart (.reference reference))
  | .closeAttribute => .ok building
  | .endTag => building.openPending
  | .endEmptyTag => do
    let opened ← building.openPending
    return opened.close
  | .closeTag name =>
    match building.openElements with
    | [] => .ok building
    | innermost :: _ =>
      if innermost.tag.name = name.value then .ok building.close
      else .error (failureAt name .mismatchedElementEndName)
  | .text text => .ok (building.add (.text text))
  | .reference reference => do
    let text ← reference.decode
    return building.add (.text text)

def run (building : Building) : List Event → Except Failure Building
  | [] => .ok building
  | event :: events => do
    let next ← building.step event
    next.run events

/-- The document of a text whose root element has been closed. -/
def finish (building : Building) : Except Failure Document :=
  if building.openElements.isEmpty then .ok ⟨building.nodes.reverse⟩
  else .error ⟨0, [.unclosedElement]⟩

end Building

namespace Document

/-- The document that the characters write. What is wrong with a piece that has been read wins
over the failure to read on behind it. -/
def read (chars : List Char) : Except Failure Document := do
  let (events, failure) := events .beginning (.ofList chars)
  let building ← Building.run {} events
  match failure with
  | some failure => .error failure
  | none => building.finish

def ofText (text : String) : Except Error Document :=
  match read text.toList with
  | .ok document => .ok document
  | .error failure => .error (failure.toError text.toList)

end Document

/-! ## The documentation tree of a document -/

/-- The bindings that an element adds to those around it, as attributes in ascending order. The
prefix `xml` is bound without being declared. -/
def StartTag.bindingAttributes (tag : StartTag) : List (String × String) :=
  let added := tag.ownBindings.filter fun (space, uri) =>
    space != "xml" && innermostUri? tag.outerBindings space != some uri
  (added.map fun (space, uri) => ("xmlns:" ++ space, uri)).mergeSort
    fun left right => left.1 ≤ right.1

/-- The attributes of an element as they are written, declarations of namespaces first. -/
def StartTag.writtenAttributes (tag : StartTag) : List (String × String) :=
  (tag.ownDefault.map (("xmlns", ·))).toList ++ tag.bindingAttributes ++
    tag.attributes.map fun attr => (attr.name.text, attr.value)

namespace XmlNode

mutual

/-- The node of the documentation tree; none for comments and instructions. -/
def toNode? : XmlNode → Option Node
  | .element tag children =>
    some (.element tag.name.text tag.writtenAttributes (toNodes children))
  | .text content => some (.text content)
  | .comment _ => none
  | .instruction _ _ => none

def toNodes : List XmlNode → List Node
  | [] => []
  | node :: nodes => (toNode? node).toList ++ toNodes nodes

end

end XmlNode

def Document.rootElement (document : Document) : Element :=
  ((XmlNode.toNodes document.nodes).findSome? Node.element?).getD {}

end DocPreview.Xml

namespace DocPreview

def Element.ofXml (text : String) : Except Xml.Error Element := do
  let document ← Xml.Document.ofText text
  return document.rootElement

end DocPreview

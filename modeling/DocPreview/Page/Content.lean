import DocPreview.Comment.CodeBlock
import DocPreview.Comment.CodeReference
import DocPreview.Page.Reading
import DocPreview.Text.Capital
import DocPreview.TypeExpr.Spelling

/-!
# What the tags mean

The handlers that all styles share. They decide what a tag shows; the sections that some tags
open are framed by the style.
-/

set_option autoImplicit false

namespace DocPreview.Content

/-! ## Blocks -/

def wrap (name : String) (attributes : List (String × String)) : Handler := fun _ tag => do
  let contents ← tag.contents
  return [.tagged name attributes contents]

def summary : Handler := wrap "div" [("class", "summary")]

def para : Handler := wrap "p" []

/-- A header or an item that stands outside a list. -/
def looseItem : Handler := wrap "div" [("class", "item")]

def inlineCode : Handler := wrap "code" []

def titledBlock (chrome : Chrome) (id title : String) : Handler := fun _ tag => do
  let contents ← tag.contents
  return [chrome.titled id title contents]

/-- What an attribute says about the members that are shared by all instances. -/
def sharedSafety (word : String) : Option String → Option String
  | some "true" => some ("Any public " ++ word ++ " members of this type are thread safe.")
  | some "false" =>
    some ("Public " ++ word ++ " members of this type are not guaranteed to be thread safe.")
  | _ => none

def instanceSafety : Option String → Option String
  | some "true" => some "Any instance members are thread safe."
  | some "false" => some "Any instance members are not guaranteed to be thread safe."
  | _ => none

def threadSafety (chrome : Chrome) : Handler := fun setting tag => do
  let contents ← tag.contents
  let statements :=
    (sharedSafety (setting.dialect.languageWord "static") (tag.attribute? "static")).toList ++
      (instanceSafety (tag.attribute? "instance")).toList
  let paragraphs := statements.map fun statement => Html.tagged "p" [] [.text statement]
  return [chrome.titled "threadsafety" "Thread Safety" (paragraphs ++ contents)]

def preliminary : Handler := fun _ tag => do
  if tag.isBlank then
    return [.classed "p" "preliminary"
      [.text "This documentation is preliminary and subject to change."]]
  else
    let contents ← tag.contents
    return [.classed "p" "preliminary" contents]

/-- A note: its kind stands in the title with every word capitalized. -/
def note : Handler := fun _ tag => do
  let kind := (tag.attribute? "type").getD "note"
  let words := (Text.words kind.toList).map String.ofList
  let title := " ".intercalate (words.map Text.capitalize)
  let styleClass := "note note-" ++ "-".intercalate words
  let contents ← tag.contents
  return [.classed "div" styleClass
    (.classed "p" "note-title" [.text title] :: contents)]

/-- A code block. It shows the text of the element, whatever elements the text stands in. -/
def codeBlock : Handler := fun setting tag => do
  let tabs := setting.options.tabs
  let text :=
    CodeBlock.format (if tabs.convert then some tabs.size else none) tag.element.textContent
  let language := (tag.attribute? "lang").or (tag.attribute? "language")
  let attributes := ("class", "code") :: (language.map (("data-lang", ·))).toList
  return [.tagged "pre" attributes [.tagged "code" [] [.text text]]]

/-! ## Definitions and rows -/

def parameterType (dialect : Dialect) (parameter : Parameter) : Html :=
  .classed "div" "parameter-type"
    [.text "Type: ", .classed "span" "type" [.text (dialect.displayType parameter.type)]]

def term (styleClass name : String) : Html :=
  .tagged "dt" [] [.classed "span" styleClass [.text name]]

/-- A parameter with its declared type, if the declaration has it, and its description. -/
def parameter : Handler := fun setting tag => do
  let name := (tag.attribute? "name").getD ""
  let declared := setting.declaration.parameters.find? (·.name == name)
  let contents ← tag.contents
  return [term "parameter" name,
    .tagged "dd" [] ((declared.map (parameterType setting.dialect)).toList ++ contents)]

def typeParameter : Handler := fun _ tag => do
  let contents ← tag.contents
  return [term "typeparameter" ((tag.attribute? "name").getD ""), .tagged "dd" [] contents]

def referenceRow : Handler := fun _ tag => do
  let reference := (tag.attribute? "cref").map (CodeReference.link · none)
  let contents ← tag.contents
  return [.tagged "tr" [] [.tagged "td" [] reference.toList, .tagged "td" [] contents]]

/-! ## Lists -/

/-- The term and the description of an entry. An entry with neither is all description. -/
def termAndDescription (entry : Tag) : Rendered (Option (List Html) × List Html) := do
  match entry.find? "term", entry.find? "description" with
  | some term, some description =>
    let term ← term.contents
    let description ← description.contents
    return (some term, description)
  | some term, none =>
    let term ← term.contents
    return (some term, [])
  | none, some description =>
    let description ← description.contents
    return (none, description)
  | none, none =>
    let contents ← entry.contents
    return (none, contents)

/-- The entries of a list with their parts, each marked whether it is the header: the first
header, if there is one, and then all items. -/
def listEntries (tag : Tag) : Rendered (List (Bool × Option (List Html) × List Html)) := do
  let header ←
    match tag.find? "listheader" with
    | none => pure []
    | some header => do
      let parts ← termAndDescription header
      pure [(true, parts)]
  let items ← (tag.childTags.filter (·.name == "item")).mapM termAndDescription
  return header ++ items.map fun parts => (false, parts)

def entryRow (isHeader : Bool) (term : Option (List Html)) (description : List Html) : Html :=
  let cell := if isHeader then "th" else "td"
  .tagged "tr" [] [.tagged cell [] (term.getD []), .tagged cell [] description]

def entryDefinition (term : Option (List Html)) (description : List Html) : List Html :=
  [.tagged "dt" [] (term.getD []), .tagged "dd" [] description]

def entryItem (isHeader : Bool) (term : Option (List Html)) (description : List Html) : Html :=
  let shown :=
    match term with
    | none => []
    | some term => [.classed "span" "term" term, .text " "]
  .tagged "li" (if isHeader then [("class", "header")] else []) (shown ++ description)

def listLayout (type : String) (entries : List (Bool × Option (List Html) × List Html)) :
    Html :=
  match type with
  | "table" =>
    .classed "table" "list"
      (entries.map fun (isHeader, term, description) => entryRow isHeader term description)
  | "definition" =>
    .tagged "dl" []
      (entries.flatMap fun (_, term, description) => entryDefinition term description)
  | other =>
    .tagged (if other == "number" then "ol" else "ul") []
      (entries.map fun (isHeader, term, description) => entryItem isHeader term description)

def list : Handler := fun _ tag => do
  let entries ← listEntries tag
  return [listLayout ((tag.attribute? "type").getD "bullet") entries]

/-! ## References -/

def labelOf? (tag : Tag) : Rendered (Option (List Html)) := do
  if tag.isBlank then return none
  else
    let contents ← tag.contents
    return some contents

/-- A code reference, an address, a language word, or else nothing but the contents. -/
def reference : Handler := fun setting tag => do
  match tag.attribute? "cref", tag.attribute? "href", tag.attribute? "langword" with
  | some target, _, _ =>
    let label ← labelOf? tag
    return [CodeReference.link target label]
  | none, some address, _ =>
    let label ← labelOf? tag
    return [.tagged "a" [("href", address)] (label.getD [.text address])]
  | none, none, some word =>
    return [.classed "code" "keyword" [.text (setting.dialect.languageWord word)]]
  | none, none, none => tag.contents

def nameReference (styleClass : String) : Handler := fun _ tag =>
  return [.classed "span" styleClass [.text ((tag.attribute? "name").getD "")]]

/-- An include that has been left in place shows nothing. -/
def unresolved : Handler := fun _ _ => return []

/-! ## The shared handlers -/

/-- The handlers for all tags but the root and `obsolete`. -/
def handlers (chrome : Chrome) : List (String × Handler) :=
  [("summary", summary),
   ("remarks", titledBlock chrome "remarks" "Remarks"),
   ("param", parameter),
   ("returns", titledBlock chrome "returns" "Return Value"),
   ("value", titledBlock chrome "value" "Property Value"),
   ("exception", referenceRow),
   ("permission", referenceRow),
   ("event", referenceRow),
   ("example", titledBlock chrome "example" "Examples"),
   ("code", codeBlock),
   ("c", inlineCode),
   ("list", list),
   ("listheader", looseItem),
   ("item", looseItem),
   ("see", reference),
   ("seealso", reference),
   ("note", note),
   ("para", para),
   ("typeparam", typeParameter),
   ("typeparamref", nameReference "typeparameter"),
   ("paramref", nameReference "parameter"),
   ("threadsafety", threadSafety chrome),
   ("preliminary", preliminary),
   ("include", unresolved)]

end DocPreview.Content

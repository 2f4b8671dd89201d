import DocPreview.Json.Basic

/-!
# Preview options

What a session may set: which tags are interpreted, what becomes of the others, whether repeated
references are dropped, how included files are looked up, and how code blocks treat tabs.
-/

set_option autoImplicit false

namespace DocPreview

/-- What becomes of an element whose tag is not recognized. -/
inductive TagPolicy where
  | hide
  /-- The tag goes, its children are interpreted. -/
  | strip
  /-- The source of the element is shown. -/
  | highlight
  /-- The tag is written as it is, its children are interpreted. -/
  | render
deriving DecidableEq, Repr

namespace TagPolicy

def name : TagPolicy → String
  | .hide => "hide-tag-and-contents"
  | .strip => "strip-tag-show-contents"
  | .highlight => "highlight-tag-and-contents"
  | .render => "render-contents"

def names : List (String × TagPolicy) :=
  [(name .hide, .hide), (name .strip, .strip), (name .highlight, .highlight),
   (name .render, .render)]

/-- The names that a user may type. -/
def shortNames : List (String × TagPolicy) :=
  [("hide", .hide), ("strip", .strip), ("highlight", .highlight), ("render", .render)]

def ofName? (text : String) : Option TagPolicy :=
  (shortNames ++ names).lookup text

def unknownMessage (text : String) : String :=
  "unknown policy: " ++ text ++ ". Use hide, strip, highlight, or render"

end TagPolicy

/-- How the file of an include is looked up. -/
inductive IncludeMode where
  /-- Includes stay as they are. -/
  | none
  /-- From the working directory first, then beside the including file. -/
  | relative
  /-- From the working directory only. -/
  | absolute
deriving DecidableEq, Repr

namespace IncludeMode

def name : IncludeMode → String
  | .none => "none"
  | .relative => "relative"
  | .absolute => "absolute"

def names : List (String × IncludeMode) :=
  [(name .none, .none), (name .relative, .relative), (name .absolute, .absolute)]

def ofName? (text : String) : Option IncludeMode :=
  names.lookup text

def unknownMessage (text : String) : String :=
  "unknown include mode: " ++ text ++ ". Use none, relative, or absolute"

end IncludeMode

structure TabSettings where
  convert : Bool := true
  size : Nat := 4
deriving DecidableEq, Repr

structure OptionSet where
  /-- The tags that are interpreted, in ascending order and each once. -/
  recognizedTags : List String :=
    ["c", "code", "event", "example", "exception", "include", "item", "list", "listheader",
     "note", "obsolete", "para", "param", "paramref", "permission", "preliminary", "remarks",
     "returns", "see", "seealso", "summary", "threadsafety", "typeparam", "typeparamref",
     "value"]
  tagPolicy : TagPolicy := .highlight
  suppressDuplicateLinks : Bool := true
  includeMode : IncludeMode := .relative
  tabs : TabSettings := {}
deriving DecidableEq, Repr

/-- A text put into an ascending list that holds each text once. -/
def insertSorted (text : String) : List String → List String
  | [] => [text]
  | first :: rest =>
    if text < first then text :: first :: rest
    else if text = first then first :: rest
    else first :: insertSorted text rest

def sortedTexts (texts : List String) : List String :=
  texts.foldl (fun sorted text => insertSorted text sorted) []

namespace TabSettings

open Json in
/-- The settings that a value describes: a table of fields, or the fields in order. -/
def ofJson? : Json → Option TabSettings
  | .object fields => do
    return {
      convert := ← field? "convert" true bool? fields
      size := ← field? "size" 4 size? fields }
  | .array [] => some {}
  | .array [convert] => do return { convert := ← bool? convert }
  | .array (convert :: size :: _) => do
    return { convert := ← bool? convert, size := ← size? size }
  | _ => none

def toJson (tabs : TabSettings) : Json :=
  .object [("convert", .bool tabs.convert), ("size", .natural tabs.size)]

end TabSettings

namespace OptionSet

open Json in
/-- The options that a value describes. Every field may be missing, and unknown ones are passed
over. -/
def ofJson? (value : Json) : Option OptionSet := do
  let fields ← value.fields?
  let defaults : OptionSet := {}
  return {
    recognizedTags :=
      ← field? "recognized_tags" defaults.recognizedTags
        (fun tags => (list? text? tags).map sortedTexts) fields
    tagPolicy :=
      ← field? "unrecognized_tag_policy" .highlight
        (fun policy => policy.choice? TagPolicy.names) fields
    suppressDuplicateLinks := ← field? "suppress_duplicate_links" true bool? fields
    includeMode :=
      ← field? "include_mode" .relative (fun mode => mode.choice? IncludeMode.names) fields
    tabs := ← field? "tabs" {} TabSettings.ofJson? fields }

def toJson (options : OptionSet) : Json :=
  .object [
    ("recognized_tags", .texts options.recognizedTags),
    ("unrecognized_tag_policy", .string options.tagPolicy.name),
    ("suppress_duplicate_links", .bool options.suppressDuplicateLinks),
    ("include_mode", .string options.includeMode.name),
    ("tabs", options.tabs.toJson)]

def isRecognized (options : OptionSet) (tag : String) : Bool :=
  options.recognizedTags.contains tag

end OptionSet

end DocPreview

import DocPreview.CommandLine.Arguments
import DocPreview.Declaration.Json
import DocPreview.Json.Reader
import DocPreview.Options.File
import DocPreview.Previewer

/-!
# Running a command line

A run loads the options, finds the style, loads the declaration and the comment, and writes the
page, in this order. The first step that fails decides the complaint, and nothing is written
then.
-/

set_option autoImplicit false

namespace DocPreview.CommandLine

inductive Failure where
  | options (fault : OptionSet.LoadFault)
  | unknownStyle (name : String)
  | unreadableDeclaration (path : String)
  | malformedDeclaration (path : String)
  | unreadableComment (path : String)
  /-- Standard input is no text. -/
  | unreadableInput
  | unwritable (path : String)
deriving DecidableEq, Repr

def Failure.message : Failure → String
  | .options fault => fault.message
  | .unknownStyle name => Style.unknownMessage name
  | .unreadableDeclaration path => "failed to read declaration " ++ path
  | .malformedDeclaration path => "invalid declaration JSON in " ++ path
  | .unreadableComment path => "failed to read " ++ path
  | .unreadableInput => "failed to read stdin"
  | .unwritable path => "failed to write " ++ path

structure Surroundings where
  files : FileTree
  /-- Standard input; none if its bytes are no text. -/
  input? : Option String

namespace Arguments

/-- The options with those of the command line in the place of their own. -/
def overlay (arguments : Arguments) (options : OptionSet) : OptionSet :=
  { options with
    tagPolicy := arguments.policy?.getD options.tagPolicy
    includeMode := arguments.includeMode?.getD options.includeMode
    suppressDuplicateLinks :=
      !arguments.keepRepeatedLinks && options.suppressDuplicateLinks }

def options (arguments : Arguments) (files : FileTree) : Except Failure OptionSet :=
  match arguments.config? with
  | none => .ok (arguments.overlay {})
  | some path =>
    match OptionSet.load files path with
    | .ok options => .ok (arguments.overlay options)
    | .error fault => .error (.options fault)

def style (arguments : Arguments) : Except Failure Style :=
  let name := arguments.style?.getD "classic"
  match Style.ofName? name with
  | some style => .ok style
  | none => .error (.unknownStyle name)

def declaration (arguments : Arguments) (files : FileTree) : Except Failure Declaration :=
  let path := arguments.declaration?.getD ""
  match files.read (Path.ofText path) with
  | .error _ => .error (.unreadableDeclaration path)
  | .ok text =>
    match (Json.ofText? text).bind Declaration.ofJson? with
    | some declaration => .ok declaration
    | none => .error (.malformedDeclaration path)

def comment (arguments : Arguments) (surroundings : Surroundings) : Except Failure String :=
  match arguments.comment? with
  | some path =>
    match surroundings.files.read (Path.ofText path) with
    | .ok text => .ok text
    | .error _ => .error (.unreadableComment path)
  | none =>
    match surroundings.input? with
    | some text => .ok text
    | none => .error .unreadableInput

/-- The file from which includes are looked up: the one given for that, else the file of the
comment. -/
def sourcePath? (arguments : Arguments) : Option Path :=
  (arguments.source?.or arguments.comment?).map Path.ofText

def page (arguments : Arguments) (surroundings : Surroundings) : Except Failure String := do
  let options ← arguments.options surroundings.files
  let style ← arguments.style
  let declaration ← arguments.declaration surroundings.files
  let comment ← arguments.comment surroundings
  let previewer : Previewer := { options, style }
  let request : PreviewRequest :=
    { declaration
      dialect := arguments.dialect?.getD .csharp
      comment
      source? := arguments.sourcePath? }
  return (previewer.page surroundings.files request).1

end Arguments

structure Outcome where
  /-- The exit code. -/
  code : Nat
  /-- What goes to standard output. -/
  output : String := ""
  /-- The complaint, if there is one to be told. -/
  complaint? : Option String := none
  files : FileTree

def errorLine (failure : Failure) : String :=
  "Error: " ++ failure.message

def helpLines : List String :=
  ["Render an HTML preview of an XML documentation comment",
   "",
   "Usage: xmldoc [OPTIONS] --declaration <DECLARATION> [COMMENT]",
   "",
   "Arguments:",
   "  [COMMENT]  Comment file, line prefixes included. If omitted, reads from stdin",
   "",
   "Options:",
   "  -d, --declaration <DECLARATION>    JSON description of the documented declaration",
   "      --dialect <DIALECT>            Signature dialect: csharp or vb [default: csharp]",
   "  -s, --style <STYLE>                Preview style: classic or reference " ++
     "[default: classic]",
   "  -c, --config <CONFIG>              TOML options file",
   "      --policy <POLICY>              Unrecognized tag policy: hide, strip, highlight " ++
     "or render",
   "      --include-mode <INCLUDE_MODE>  Include resolution: none, relative or absolute",
   "      --no-dedupe-links              Keep repeated see/seealso references",
   "      --source <SOURCE>              Source file the comment belongs to, for relative " ++
     "includes. Defaults to the comment file",
   "  -o, --output <OUTPUT>              Output file. If omitted, writes to stdout",
   "  -h, --help                         Print help"]

def helpText : String :=
  String.join (helpLines.map (· ++ "\n"))

/-- The outcome of a run that has made a page or failed to. A file that is written gets the
time `now`. -/
def Arguments.deliver (arguments : Arguments) (files : FileTree) (now : Nat)
    (page : Except Failure String) : Outcome :=
  match page, arguments.output? with
  | .error failure, _ => { code := 1, complaint? := some (errorLine failure), files }
  | .ok page, none => { code := 0, output := page, files }
  | .ok page, some path =>
    match files.write (Path.ofText path) page now with
    | .ok files => { code := 0, files }
    | .error _ => { code := 1, complaint? := some (errorLine (.unwritable path)), files }

def run (surroundings : Surroundings) (now : Nat) (words : List String) : Outcome :=
  match Arguments.ofWords words with
  | .ok arguments =>
    arguments.deliver surroundings.files now (arguments.page surroundings)
  | .error .help => { code := 0, output := helpText, files := surroundings.files }
  | .error .usage => { code := 2, files := surroundings.files }

end DocPreview.CommandLine

import DocPreview.CommandLine.Run

/-!
# The files that a run may read

A run reads the files that its arguments name, and those that includes name in the comment and
in files that are included. Only what stands in the known files can be told; with the files
that are wanted known too, more may turn out to be.
-/

set_option autoImplicit false

namespace DocPreview.CommandLine

mutual

/-- The files that the includes of a node name. -/
def mentioned : Node → List String
  | .text _ => []
  | .element name attributes children =>
    let own := if name = Include.tag then attributes.lookup "file" else none
    (own.map trimmed).toList ++ mentionedAll children

def mentionedAll : List Node → List String
  | [] => []
  | node :: nodes => mentioned node ++ mentionedAll nodes

end

/-- Where the files are looked up that includes below an element name. -/
def lookedUp (directory? : Option Path) (root : Element) : List Path :=
  (mentionedAll root.children).flatMap fun file =>
    let path := Path.ofText file
    path :: (directory?.map fun directory => directory.within path).toList

def lookedUpFrom (location : Location) (file : File) : List Path :=
  match file.text?.map Element.ofXml with
  | some (.ok root) => lookedUp (some (Include.directoryOf location)) { children := [root.node] }
  | _ => []

namespace Arguments

def namedPaths (arguments : Arguments) : List Path :=
  [arguments.config?, arguments.declaration?, arguments.comment?, arguments.output?].filterMap
    fun path? => path?.map Path.ofText

/-- The paths that a run may read, as far as the known files tell. -/
def wantedPaths (arguments : Arguments) (surroundings : Surroundings) : List Path :=
  let ofComment :=
    match arguments.comment surroundings with
    | .ok text =>
      lookedUp (arguments.sourcePath?.bind Path.parent?)
        (Comment.parse (arguments.dialect?.getD .csharp) text)
    | .error _ => []
  let ofFiles := surroundings.files.entries.flatMap fun (location, entry) =>
    match entry with
    | .file file => lookedUpFrom location file
    | .directory => []
  arguments.namedPaths ++ ofComment ++ ofFiles

end Arguments

end DocPreview.CommandLine

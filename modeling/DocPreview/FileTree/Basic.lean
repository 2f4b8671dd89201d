import DocPreview.FileTree.Path

/-!
# File trees

A file tree holds directories and files under their locations, which are the names on the way
from the root. A path leads to a location step by step: every step but the last has to end in a
directory, and two dots go back to the directory around it. What goes wrong on the way or with
the file itself is told in the words of the operating system.
-/

set_option autoImplicit false

namespace DocPreview

/-- The names on the way from the root to a file or a directory. -/
abbrev Location : Type :=
  List String

def Location.text (location : Location) : String :=
  "/" ++ "/".intercalate location

structure File where
  /-- The text of the file; none if its bytes are no text. -/
  text? : Option String
  /-- When the file was changed last. -/
  modified : Nat
deriving DecidableEq, Repr

inductive FileEntry where
  | directory
  | file (file : File)
deriving DecidableEq, Repr

inductive FileFault where
  | notFound
  | isDirectory
  | notDirectory
  | nameTooLong
  | notText
  | zeroInName
deriving DecidableEq, Repr

def FileFault.message : FileFault → String
  | .notFound => "No such file or directory (os error 2)"
  | .isDirectory => "Is a directory (os error 21)"
  | .notDirectory => "Not a directory (os error 20)"
  | .nameTooLong => "File name too long (os error 36)"
  | .notText => "stream did not contain valid UTF-8"
  | .zeroInName => "file name contained an unexpected NUL byte"

/-- The directories and files that there are, and the directory where one works. -/
structure FileTree where
  workingDirectory : Location := []
  /-- What the locations hold, each location once. The root is always a directory. -/
  entries : List (Location × FileEntry) := []

namespace FileTree

def entry? (tree : FileTree) (location : Location) : Option FileEntry :=
  if location.isEmpty then some .directory else tree.entries.lookup location

def file? (tree : FileTree) (location : Location) : Option File :=
  match tree.entry? location with
  | some (.file file) => some file
  | _ => none

/-! ## Following paths -/

/-- The largest sizes of a name and of a path, in bytes. -/
def nameLimit : Nat := 255

def pathLimit : Nat := 4095

def walk (tree : FileTree) (location : Location) : (names : List String) →
    Except FileFault Location
  | [] => .ok location
  | name :: names =>
    match tree.entry? location with
    | none => .error .notFound
    | some (.file _) => .error .notDirectory
    | some .directory =>
      if name = ".." then tree.walk location.dropLast names
      else if nameLimit < name.utf8ByteSize then .error .nameTooLong
      else if (tree.entry? (location ++ [name])).isNone then .error .notFound
      else tree.walk (location ++ [name]) names

def start (tree : FileTree) (path : Path) : Location :=
  if path.isAbsolute then [] else tree.workingDirectory

/-- Refuses a path that no file tree can follow. -/
def checkPath (path : Path) : Except FileFault Unit :=
  if path.names.any (·.toList.contains (Char.ofNat 0)) then .error .zeroInName
  else if path.isEmpty then .error .notFound
  else if pathLimit < path.size then .error .nameTooLong
  else .ok ()

/-- The location that a path leads to, where there is a file or a directory. -/
def locate (tree : FileTree) (path : Path) : Except FileFault Location := do
  checkPath path
  let location ← tree.walk (tree.start path) path.names
  match tree.entry? location with
  | none => .error .notFound
  | some .directory => return location
  | some (.file _) =>
    if path.meansDirectory then .error .notDirectory else return location

def locateFile? (tree : FileTree) (path : Path) : Option Location :=
  match tree.locate path with
  | .ok location => if (tree.file? location).isSome then some location else none
  | .error _ => none

/-! ## Reading and changing -/

def read (tree : FileTree) (path : Path) : Except FileFault String := do
  let location ← tree.locate path
  match tree.entry? location with
  | none => .error .notFound
  | some .directory => .error .isDirectory
  | some (.file file) =>
    match file.text? with
    | some text => return text
    | none => .error .notText

/-- The tree with an entry at a location, in the place of what was there. -/
def set (tree : FileTree) (location : Location) (entry : FileEntry) : FileTree :=
  { tree with
    entries := (location, entry) :: tree.entries.filter (·.1 != location) }

def remove (tree : FileTree) (location : Location) : FileTree :=
  { tree with entries := tree.entries.filter (·.1 != location) }

/-- The locations around a location, outermost first, without the root. -/
def around (location : Location) : List Location :=
  (List.range (location.length - 1)).map fun index => location.take (index + 1)

/-- The tree with an entry at a location, and with the directories around it. -/
def put (tree : FileTree) (location : Location) (entry : FileEntry) : FileTree :=
  let tree := (around location).foldl (fun tree outer => tree.set outer .directory) tree
  tree.set location entry

def ofWorkingDirectory (location : Location) : FileTree :=
  { workingDirectory := location : FileTree }.put location .directory

/-- The location where a file may be written: its directory exists, and it is none itself. -/
def locateTarget (tree : FileTree) (path : Path) : Except FileFault Location := do
  checkPath path
  match path.names.getLast? with
  | none => .error .isDirectory
  | some name =>
    if name = ".." then .error .isDirectory
    else
      let directory ← tree.walk (tree.start path) path.names.dropLast
      match tree.entry? directory with
      | none => .error .notFound
      | some (.file _) => .error .notDirectory
      | some .directory =>
        let location := directory ++ [name]
        if nameLimit < name.utf8ByteSize then .error .nameTooLong
        else
          match tree.entry? location, path.meansDirectory with
          | some .directory, _ => .error .isDirectory
          | none, true => .error .isDirectory
          | some (.file _), true => .error .notDirectory
          | _, false => return location

/-- The tree after a text is written to the file that a path leads to. -/
def write (tree : FileTree) (path : Path) (text : String) (modified : Nat) :
    Except FileFault FileTree := do
  let location ← tree.locateTarget path
  return tree.set location (.file ⟨some text, modified⟩)

end FileTree

end DocPreview

import DocPreview.CommandLine.Wanted

/-!
# The program

Puts what a run may read into a file tree, carries the run out there, and writes what it
leaves.
-/

set_option autoImplicit false

open DocPreview CommandLine

namespace DocPreview.Main

def readEntry? (location : Location) : IO (Option FileEntry) := do
  try
    let found ← IO.FS.realPath location.text
    if ← found.isDir then return some .directory
    else
      let bytes ← IO.FS.readBinFile found
      return some (.file ⟨String.fromUTF8? bytes, 0⟩)
  catch _ => return none

/-- The locations on the way of names, where two dots go back. -/
def passedLocations : (start : Location) → (names : List String) → List Location
  | location, [] => [location]
  | location, name :: names =>
    let next := if name = ".." then location.dropLast else location ++ [name]
    location :: passedLocations next names

def loadLocation (files : FileTree) (location : Location) : IO FileTree := do
  if (files.entry? location).isSome then return files
  else
    match ← readEntry? location with
    | some entry => return files.set location entry
    | none => return files

def loadPath (files : FileTree) (path : Path) : IO FileTree :=
  (passedLocations (files.start path) path.names).foldlM loadLocation files

/-- The tree with all that a run may read. Every round loads the files that the round before it
told of. -/
def loadWanted (arguments : Arguments) (input? : Option String) :
    (rounds : Nat) → FileTree → IO FileTree
  | 0, files => return files
  | rounds + 1, files => do
    let loaded ← (arguments.wantedPaths ⟨files, input?⟩).foldlM loadPath files
    if loaded.entries.length = files.entries.length then return loaded
    else loadWanted arguments input? rounds loaded

/-- All bytes of a stream. -/
partial def readAll (stream : IO.FS.Stream) (bytes : ByteArray) : IO ByteArray := do
  let next ← stream.read 65536
  if next.isEmpty then return bytes else readAll stream (bytes ++ next)

/-- What a run can read. Standard input is left alone when the comment has a file. -/
def loadSurroundings (arguments : Arguments) : IO Surroundings := do
  let directory ← IO.currentDir
  let input? ←
    if arguments.comment?.isSome then pure none
    else pure (String.fromUTF8? (← readAll (← IO.getStdin) .empty))
  let files := FileTree.ofWorkingDirectory (Path.ofText directory.toString).names
  let files ← loadWanted arguments input? (Include.nestingLimit + 2) files
  return ⟨files, input?⟩

/-- Writes the file that a successful run leaves; gives the exit code. -/
def saveOutput (arguments : Arguments) (outcome : Outcome) : IO UInt32 := do
  match arguments.output? with
  | none => return 0
  | some path =>
    try
      IO.FS.writeFile path ((outcome.files.read (Path.ofText path)).toOption.getD "")
      return 0
    catch _ =>
      IO.eprintln (errorLine (.unwritable path))
      return 1

def carryOut (words : List String) (arguments : Arguments) : IO UInt32 := do
  let surroundings ← loadSurroundings arguments
  let outcome := run surroundings 0 words
  IO.print outcome.output
  match outcome.complaint? with
  | some line =>
    IO.eprintln line
    return outcome.code.toUInt32
  | none => saveOutput arguments outcome

end DocPreview.Main

def main (words : List String) : IO UInt32 := do
  match Arguments.ofWords words with
  | .ok arguments => DocPreview.Main.carryOut words arguments
  | .error .help =>
    IO.print helpText
    return 0
  | .error .usage =>
    IO.eprintln "error: the arguments do not fit the usage; see --help"
    return 2

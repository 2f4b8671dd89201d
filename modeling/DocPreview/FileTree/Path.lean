import DocPreview.Text.Blank

/-!
# Paths

A path is the names between its slashes. A single dot and the nothing between two slashes name
no step; two dots stay, because where they lead is for the file tree to say. How a path ends
matters: after a last slash or dot it can only mean a directory.
-/

set_option autoImplicit false

namespace DocPreview

inductive PathEnding where
  | name
  | slash
  | dot
deriving DecidableEq, Repr

structure Path where
  /-- Whether the path starts at the root, and not where one works. -/
  isAbsolute : Bool := false
  names : List String := []
  ending : PathEnding := .name
  /-- The size of the written path in bytes. -/
  size : Nat := 0
deriving DecidableEq, Repr

namespace Path

def pieces (text : String) : List (List Char) :=
  split text.toList
where
  /-- Cuts characters at each slash. -/
  split : List Char → List (List Char)
    | [] => [[]]
    | '/' :: rest => [] :: split rest
    | char :: rest =>
      match split rest with
      | [] => [[char]]
      | piece :: pieces => (char :: piece) :: pieces

def ofText (text : String) : Path :=
  let pieces := pieces text
  { isAbsolute := text.toList.head? == some '/'
    names :=
      (pieces.filter fun piece => !piece.isEmpty && piece != ['.']).map String.ofList
    ending :=
      if pieces.getLast? == some ['.'] then .dot
      else if pieces.getLast? == some [] && !text.isEmpty then .slash
      else .name
    size := text.utf8ByteSize }

/-- Whether the path can only mean a directory. -/
def meansDirectory (path : Path) : Bool :=
  path.ending != .name

def isEmpty (path : Path) : Bool :=
  path.names.isEmpty && !path.isAbsolute && !path.meansDirectory

/-- The size of names with a slash before each. -/
def namesSize (names : List String) : Nat :=
  names.foldr (fun name size => name.utf8ByteSize + 1 + size) 0

/-- The path without its last name. The root has none, nor has the empty path; the dot alone has
the empty one. -/
def parent? (path : Path) : Option Path :=
  if path.names.isEmpty then
    if path.isAbsolute || path.isEmpty then none else some {}
  else
    let names := path.names.dropLast
    some { isAbsolute := path.isAbsolute, names, size := namesSize names }

def within (directory path : Path) : Path :=
  if path.isAbsolute then path
  else
    { path with
      isAbsolute := directory.isAbsolute
      names := directory.names ++ path.names
      size := directory.size + 1 + path.size }

/-- The path from the root, when one works in the given directory. A dot at its end is
dropped, but not a slash. -/
def absolute (workingDirectory : List String) (path : Path) : Path :=
  let names := if path.isAbsolute then path.names else workingDirectory ++ path.names
  { isAbsolute := true
    names
    ending := if path.ending = .slash then .slash else .name
    size := namesSize names }

end Path

end DocPreview

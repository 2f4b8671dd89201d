import DocPreview.FileTree.Basic
import DocPreview.Options.Basic
import DocPreview.XPath.Query

/-!
# Includes

An include names a file and a query. The file is looked up from the working directory and, in
the relative mode, also from the directory of the including file. What the query selects in the
file takes the place of the include; what goes wrong becomes a failure element there.
-/

set_option autoImplicit false

namespace DocPreview.Include

open Xml (Document)

def tag : String := "include"

inductive Fault where
  | missingAttribute (name : String)
  | notFound (file : String)
  | unreadable (location : Location) (fault : FileFault)
  | malformed (location : Location) (error : Xml.Error)
  | badQuery (query : String) (fault : XPath.QueryFault)
  | noMatches (query : String) (location : Location)
  /-- The file encloses the include already. -/
  | cycle (location : Location)
  | tooDeep (limit : Nat)

namespace Fault

def message : Fault → String
  | .missingAttribute name => "include is missing the '" ++ name ++ "' attribute"
  | .notFound file => "include file not found: " ++ file
  | .unreadable location fault =>
    "failed to load include file " ++ location.text ++ ": " ++ fault.message
  | .malformed location error =>
    "failed to parse include file " ++ location.text ++ ": " ++ error.message
  | .badQuery query fault => "invalid include query '" ++ query ++ "': " ++ fault.message
  | .noMatches query location =>
    "include query '" ++ query ++ "' matched no nodes in " ++ location.text
  | .cycle location => "include cycle detected: " ++ location.text
  | .tooDeep limit => "include nesting exceeds " ++ Nat.repr limit ++ " levels"

def node (fault : Fault) : Node :=
  .error fault.message

end Fault

/-- The value of an attribute without the blanks around it, which has to leave something. -/
def requiredAttribute (attributes : List (String × String)) (name : String) :
    Except Fault String :=
  match (attributes.lookup name).map trimmed with
  | some value => if value.isEmpty then .error (.missingAttribute name) else .ok value
  | none => .error (.missingAttribute name)

/-- Where and how the files of includes are looked up. -/
structure Setting where
  files : FileTree
  mode : IncludeMode

/-- The file of an include. Only the relative mode falls back to the directory of the including
file. -/
def Setting.locate (setting : Setting) (directory? : Option Path) (file : String) :
    Except Fault Location :=
  let path := Path.ofText file
  match setting.files.locateFile? (path.absolute setting.files.workingDirectory) with
  | some location => .ok location
  | none =>
    match setting.mode, directory? with
    | .relative, some directory =>
      match setting.files.locateFile? (directory.within path) with
      | some location => .ok location
      | none => .error (.notFound file)
    | _, _ => .error (.notFound file)

def selectNodes (document : Document) (query : String) :
    Except XPath.QueryFault (List Node) := do
  let places ← XPath.select document query
  return places.flatMap XPath.Place.toNodes

def readDocument (files : FileTree) (location : Location) : Except Fault Document :=
  match files.file? location with
  | none => .error (.unreadable location .notFound)
  | some file =>
    match file.text? with
    | none => .error (.unreadable location .notText)
    | some text =>
      match Document.ofText text with
      | .ok document => .ok document
      | .error error => .error (.malformed location error)

/-! ## Keeping documents -/

/-- A document with the time of change of the file that it was read from. -/
structure KeptDocument where
  modified : Nat
  document : Document

/-- The documents read so far, each location once. -/
structure Cache where
  documents : List (Location × KeptDocument) := []

namespace Cache

def size (cache : Cache) : Nat :=
  cache.documents.length

/-- The document kept for a location, if the file there was not changed since. -/
def fresh? (cache : Cache) (files : FileTree) (location : Location) : Option Document :=
  match files.file? location, cache.documents.lookup location with
  | some file, some kept =>
    if kept.modified = file.modified then some kept.document else none
  | _, _ => none

/-- The cache with a document in the place of the one that was kept for its location. -/
def keep (cache : Cache) (location : Location) (kept : KeptDocument) : Cache :=
  ⟨(location, kept) :: cache.documents.filter (·.1 != location)⟩

/-- The document of a file, read only if the cache does not hold it. A failure keeps what the
cache held. -/
def load (files : FileTree) (location : Location) : StateM Cache (Except Fault Document) := do
  match (← get).fresh? files location with
  | some document => return .ok document
  | none =>
    match files.file? location, readDocument files location with
    | some file, .ok document =>
      modify (·.keep location ⟨file.modified, document⟩)
      return .ok document
    | _, read => return read

end Cache

end DocPreview.Include

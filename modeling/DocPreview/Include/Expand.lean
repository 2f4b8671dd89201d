import DocPreview.Include.Basic

/-!
# Expanding includes

Every include of a tree is replaced, and so are those in what replaces it, seen from the file
that it came from. A file cannot enclose itself, and at most `nestingLimit` files enclose each
other. How a document is loaded is left open, so that one definition describes both the
expansion that reads every file anew and the one that keeps documents.
-/

set_option autoImplicit false

namespace DocPreview.Include

open Xml (Document)

/-- How many files may enclose each other. -/
def nestingLimit : Nat := 16

section

variable {m : Type → Type} [Monad m]

mutual

/-- A node with its includes replaced, or what replaces it. -/
def expandNode (onInclude : List (String × String) → m (List Node)) : Node → m (List Node)
  | .text content => return [.text content]
  | .element name attributes children =>
    if name = tag then onInclude attributes
    else do
      let children ← expandNodes onInclude children
      return [.element name attributes children]

def expandNodes (onInclude : List (String × String) → m (List Node)) :
    List Node → m (List Node)
  | [] => return []
  | node :: nodes => do
    let first ← expandNode onInclude node
    let rest ← expandNodes onInclude nodes
    return first ++ rest

end

def Setting.target (setting : Setting) (enclosing : List Location) (directory? : Option Path)
    (attributes : List (String × String)) : Except Fault (Location × String) := do
  let file ← requiredAttribute attributes "file"
  let query ← requiredAttribute attributes "path"
  let location ← setting.locate directory? file
  if enclosing.contains location then .error (.cycle location)
  else return (location, query)

/-- The nodes that a query selects in a file, of which there has to be one. -/
def matching (load : Location → m (Except Fault Document)) (location : Location)
    (query : String) : m (Except Fault (List Node)) := do
  match ← load location with
  | .error fault => return .error fault
  | .ok document =>
    match selectNodes document query with
    | .error fault => return .error (.badQuery query fault)
    | .ok [] => return .error (.noMatches query location)
    | .ok nodes => return .ok nodes

def directoryOf (location : Location) : Path :=
  { isAbsolute := true, names := location.dropLast, size := Path.namesSize location.dropLast }

/-- What replaces an include inside the enclosing files, when `levels` more files may enclose
each other. -/
def replacement (setting : Setting) (load : Location → m (Except Fault Document)) :
    (levels : Nat) → (enclosing : List Location) → (directory? : Option Path) →
    (attributes : List (String × String)) → m (List Node)
  | levels, enclosing, directory?, attributes =>
    match setting.target enclosing directory? attributes with
    | .error fault => return [fault.node]
    | .ok (location, query) =>
      match levels with
      | 0 => return [(Fault.tooDeep nestingLimit).node]
      | levels + 1 => do
        match ← matching load location query with
        | .error fault => return [fault.node]
        | .ok nodes =>
          expandNodes
            (replacement setting load levels (location :: enclosing)
              (some (directoryOf location)))
            nodes

/-- The element with all includes below it replaced. `source?` is the path of the file that the
element belongs to. -/
def resolveWith (setting : Setting) (load : Location → m (Except Fault Document))
    (source? : Option Path) (root : Element) : m Element :=
  match setting.mode with
  | .none => return root
  | _ => do
    let directory? := source?.bind Path.parent?
    let children ←
      expandNodes (replacement setting load nestingLimit [] directory?) root.children
    return { root with children }

end

/-- The element with all includes below it replaced, every file read as it is now. -/
def resolve (setting : Setting) (source? : Option Path) (root : Element) : Element :=
  Id.run (resolveWith setting (fun location => pure (readDocument setting.files location))
    source? root)

/-- The element with all includes below it replaced, with the documents of the cache. -/
def Cache.resolve (setting : Setting) (source? : Option Path) (root : Element) :
    StateM Cache Element :=
  resolveWith setting (Cache.load setting.files) source? root

end DocPreview.Include

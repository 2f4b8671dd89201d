import DocPreview.Json.Basic

/-!
# TOML tables

A table grows from its headings and its keys with dots. No value is given twice, a table has one
heading at most, and a table that keys with dots have made gets no heading, nor does a key with
dots reach into one that has.
-/

set_option autoImplicit false

namespace DocPreview.Toml

/-- How a table came to be. -/
inductive TableOrigin where
  /-- By a heading of its own. -/
  | heading
  /-- By the heading of a table within it. -/
  | passage
  /-- By a key with dots. -/
  | dots
deriving DecidableEq, Repr

/-- What a key of a table stands for. -/
inductive Item where
  | value (content : Json)
  | table (origin : TableOrigin) (items : List (String × Item))
  /-- Tables with one heading for each, the last one last. -/
  | tables (earlier : List Item) (last : List (String × Item))

/-- The items of a table by key, each key once. -/
abbrev Items : Type :=
  List (String × Item)

namespace Item

mutual

def toJson : Item → Json
  | .value only => only
  | .table _ items => .object (fieldsJson items)
  | .tables earlier last => .array (listJson earlier ++ [.object (fieldsJson last)])

def fieldsJson : List (String × Item) → List (String × Json)
  | [] => []
  | (key, item) :: items => (key, item.toJson) :: fieldsJson items

def listJson : List Item → List Json
  | [] => []
  | item :: items => item.toJson :: listJson items

end

end Item

namespace Items

def set (items : Items) (key : String) (item : Item) : Items :=
  items.filter (·.1 != key) ++ [(key, item)]

/-- Changes the table that keys lead to. `origin` is how a table that is missing on the way is
made. A key with dots does not pass a table that has a heading. -/
def change (origin : TableOrigin) (update : TableOrigin → Items → Option Items) :
    (made : TableOrigin) → (keys : List String) → Items → Option Items
  | here, [], items => update here items
  | _, key :: keys, items =>
    match items.lookup key with
    | none => (change origin update origin keys []).map fun inner =>
        items.set key (.table origin inner)
    | some (.value _) => none
    | some (.table made inner) =>
      if origin = .dots ∧ made = .heading then none
      else (change origin update made keys inner).map fun inner =>
        items.set key (.table made inner)
    | some (.tables earlier last) =>
      (change origin update .heading keys last).map fun last =>
        items.set key (.tables earlier last)

def addValue (hasDots : Bool) (key : String) (value : Json) (made : TableOrigin)
    (items : Items) : Option Items :=
  if (made == .dots) != hasDots || (items.lookup key).isSome then none
  else some (items.set key (.value value))

def addDotted (items : Items) (keys : List String) (value : Json) : Option Items :=
  match keys.getLast? with
  | none => none
  | some key =>
    let outer := keys.dropLast
    change .dots (addValue (!outer.isEmpty) key value) .heading outer items

def openTable (key : String) (items : Items) : Option Items :=
  match items.lookup key with
  | none => some (items.set key (.table .heading []))
  | some (.table .passage inner) => some (items.set key (.table .heading inner))
  | some _ => none

def openNext (key : String) (items : Items) : Option Items :=
  match items.lookup key with
  | none => some (items.set key (.tables [] []))
  | some (.tables earlier last) =>
    some (items.set key (.tables (earlier ++ [.table .heading last]) []))
  | some _ => none

/-- Opens the table of a heading with dots between its keys. -/
def addHeading (items : Items) (repeated : Bool) (keys : List String) : Option Items :=
  match keys.getLast? with
  | none => none
  | some key =>
    change .passage (fun _ => if repeated then openNext key else openTable key) .heading
      keys.dropLast items

/-- Adds a value under keys with dots, within the table of a heading. -/
def addWithin (items : Items) (heading keys : List String) (value : Json) : Option Items :=
  change .passage (fun _ inner => addDotted inner keys value) .heading heading items

end Items

end DocPreview.Toml

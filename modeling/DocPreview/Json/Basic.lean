/-!
# JSON values

Values of the data format that declarations arrive in. An object keeps its fields as they were
written, repetitions included, so that a reader of a record can refuse a field given twice.
Numbers are told apart only as far as a reader needs: a natural number is a value, any other
number is kept as it was written.
-/

set_option autoImplicit false

namespace DocPreview

inductive Json where
  | null
  | bool (value : Bool)
  | natural (value : Nat)
  /-- A number with a sign, a fraction or an exponent. -/
  | otherNumber (literal : String)
  | string (text : String)
  /-- A string literal with an escaped surrogate that has no partner, which is no text. -/
  | brokenString
  | array (items : List Json)
  | object (fields : List (String × Json))
deriving Inhabited

namespace Json

/-- The values of all fields with this name, in the order written. -/
def valuesOf (name : String) (fields : List (String × Json)) : List Json :=
  (fields.filter fun field => field.1 == name).map Prod.snd

/-- The value read from the one field of this name, or the default when there is none.
A name given twice is refused. -/
def field? {α : Type} (name : String) (default : α) (read : Json → Option α)
    (fields : List (String × Json)) : Option α :=
  match valuesOf name fields with
  | [] => some default
  | [value] => read value
  | _ :: _ :: _ => none

/-- The value read from the one field of this name, which has to be there. -/
def required? {α : Type} (name : String) (read : Json → Option α)
    (fields : List (String × Json)) : Option α :=
  match valuesOf name fields with
  | [value] => read value
  | _ => none

def fields? : Json → Option (List (String × Json))
  | .object fields => some fields
  | _ => none

/-- The fields of a record. An array has their values in the order of the names, and the last ones
may be missing from it. -/
def record? (names : List String) : Json → Option (List (String × Json))
  | .object fields => some fields
  | .array items => if items.length ≤ names.length then some (names.zip items) else none
  | _ => none

def text? : Json → Option String
  | .string text => some text
  | _ => none

def bool? : Json → Option Bool
  | .bool value => some value
  | _ => none

/-- A size that fits in 64 bits. -/
def size? : Json → Option Nat
  | .natural value => if value < Nat.pow 2 64 then some value else none
  | _ => none

def list? {α : Type} (read : Json → Option α) : Json → Option (List α)
  | .array items => items.mapM read
  | _ => none

/-- A value that may be `null`, which reads as none. -/
def optional? {α : Type} (read : Json → Option α) : Json → Option (Option α)
  | .null => some none
  | value => (read value).map some

/-- A name out of a closed set of names, alone or as a field that holds nothing. -/
def choice? {α : Type} (names : List (String × α)) : Json → Option α
  | .string name => names.lookup name
  | .object [(name, .null)] => names.lookup name
  | _ => none

def texts (items : List String) : Json :=
  .array (items.map .string)

def ofOption? (text : Option String) : Json :=
  match text with
  | none => .null
  | some text => .string text

end Json

end DocPreview

import DocPreview.Toml.Scalar
import DocPreview.Toml.Table

/-!
# Reading TOML text

A text is a sequence of lines: a key with its value, a heading, a comment, or nothing. Lists and
tables within a value may nest up to a limit.
-/

set_option autoImplicit false

namespace DocPreview.Toml

/-- Lists and tables nest less deep than this, and a key has fewer parts. -/
def nestingLimit : Nat := 80

/-! ## Space, comments and keys -/

/-- The characters behind blanks, line ends and comments. -/
def skipLines (inComment : Bool) : List Char → List Char
  | [] => []
  | '\r' :: '\n' :: rest => skipLines false rest
  | char :: rest =>
    if char == '\n' then skipLines false rest
    else if inComment then
      if isPrintable char then skipLines true rest else char :: rest
    else if isBlank char then skipLines false rest
    else if char == '#' then skipLines true rest
    else char :: rest

def skipBlanks (chars : List Char) : List Char :=
  chars.dropWhile isBlank

/-- The next line, when nothing but blanks and a comment stands before it. -/
def endLine? (chars : List Char) : Option (List Char) :=
  let rest :=
    match skipBlanks chars with
    | '#' :: comment => comment.dropWhile isPrintable
    | rest => rest
  match rest with
  | [] => some []
  | '\n' :: rest => some rest
  | '\r' :: '\n' :: rest => some rest
  | _ => none

def isKeyChar (char : Char) : Bool :=
  char.isAlphanum || char == '_' || char == '-'

def scanKeyPart? : List Char → Option (String × List Char)
  | '"' :: rest => (scanBasic rest).map fun (text, rest) => (String.ofList text, rest)
  | '\'' :: rest => (scanLiteral rest).map fun (text, rest) => (String.ofList text, rest)
  | chars =>
    let part := chars.takeWhile isKeyChar
    if part.isEmpty then none else some (String.ofList part, chars.dropWhile isKeyChar)

/-- The parts of a key, at most `limit`, with dots between them. -/
def scanKey? : (limit : Nat) → List Char → Option (List String × List Char)
  | 0, _ => none
  | limit + 1, chars => do
    let (first, rest) ← scanKeyPart? (skipBlanks chars)
    match skipBlanks rest with
    | '.' :: rest =>
      let (keys, rest) ← scanKey? limit rest
      return (first :: keys, rest)
    | rest => return ([first], rest)

def scanPair? (value : List Char → Option (Json × List Char)) (chars : List Char) :
    Option ((List String × Json) × List Char) := do
  let (keys, rest) ← scanKey? (nestingLimit - 1) chars
  let rest ← scanMark? '=' rest
  let (value, rest) ← value (skipBlanks rest)
  return ((keys, value), rest)

/-! ## Values -/

/-- The values of a list behind its opening bracket. A comma may follow the last one. -/
def scanList (value : List Char → Option (Json × List Char)) : (fuel : Nat) →
    List Char → Option (List Json × List Char)
  | 0, _ => none
  | fuel + 1, chars =>
    match skipLines false chars with
    | ']' :: rest => some ([], rest)
    | chars => do
      let (first, rest) ← value chars
      match skipLines false rest with
      | ']' :: rest => return ([first], rest)
      | ',' :: rest =>
        let (values, rest) ← scanList value fuel rest
        return (first :: values, rest)
      | _ => none

/-- The fields of a table in braces, the first of which stands here. -/
def scanFields (value : List Char → Option (Json × List Char)) : (fuel : Nat) → Items →
    List Char → Option (Items × List Char)
  | 0, _, _ => none
  | fuel + 1, items, chars => do
    let ((keys, read), rest) ← scanPair? value chars
    let items ← items.addDotted keys read
    match skipBlanks rest with
    | '\x7d' :: rest => return (items, rest)
    | ',' :: rest => scanFields value fuel items rest
    | _ => none

/-- A table in braces, behind the opening one. -/
def scanBraces? (value : List Char → Option (Json × List Char)) (chars : List Char) :
    Option (Json × List Char) :=
  match skipBlanks chars with
  | '\x7d' :: rest => some (.object [], rest)
  | chars => do
    let (items, rest) ← scanFields value (chars.length + 1) [] chars
    return (.object (Item.fieldsJson items), rest)

/-- A value, in which lists and tables nest at most `levels` deep. -/
def scanValue? : (levels : Nat) → List Char → Option (Json × List Char)
  | levels, '[' :: rest =>
    match levels with
    | 0 => none
    | levels + 1 =>
      (scanList (scanValue? levels) (rest.length + 1) rest).map fun (values, rest) =>
        (.array values, rest)
  | levels, '\x7b' :: rest =>
    match levels with
    | 0 => none
    | levels + 1 => scanBraces? (scanValue? levels) rest
  | _, chars => scanScalar? chars

/-! ## Documents -/

/-- What has been read, and the heading under which the reading goes on. -/
structure Progress where
  items : Items := []
  heading : List String := []

def Progress.readHeading (progress : Progress) (chars : List Char) :
    Option (Progress × List Char) := do
  let (repeated, rest) :=
    match chars with
    | '[' :: rest => (true, rest)
    | rest => (false, rest)
  let (keys, rest) ← scanKey? (nestingLimit - 1) rest
  let rest ← scanMark? ']' rest
  let rest ← if repeated then scanMark? ']' rest else some rest
  let items ← progress.items.addHeading repeated keys
  return (⟨items, keys⟩, rest)

def Progress.readLine (progress : Progress) (chars : List Char) : Option (Progress × List Char) :=
  match chars with
  | '[' :: rest => progress.readHeading rest
  | chars => do
    let ((keys, value), rest) ← scanPair? (scanValue? (nestingLimit - 1)) chars
    let items ← progress.items.addWithin progress.heading keys value
    return ({ progress with items }, rest)

def Progress.readLines : (fuel : Nat) → Progress → List Char → Option Items
  | 0, _, _ => none
  | fuel + 1, progress, chars =>
    match skipLines false chars with
    | [] => some progress.items
    | chars => do
      let (progress, rest) ← progress.readLine chars
      let rest ← endLine? rest
      readLines fuel progress rest

/-- The fields of the table that a text writes. A byte order mark may stand before it. -/
def fieldsOfText? (text : String) : Option (List (String × Json)) :=
  let chars :=
    match text.toList with
    | first :: rest => if first.toNat = 0xFEFF then rest else first :: rest
    | [] => []
  (Progress.readLines (chars.length + 1) {} chars).map Item.fieldsJson

end DocPreview.Toml

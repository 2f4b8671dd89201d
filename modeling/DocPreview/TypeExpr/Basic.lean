import DocPreview.Text.Blank

/-!
# Type expressions

The types of signatures arrive as text in the `csharp` spelling. A text is a type expression
when its tokens, with blanks allowed between them, follow the grammar

    Type   ::= Name [ '<' Type { ',' Type } '>' ] Suffix*
    Suffix ::= '[' ','* ']' | '?' | '*'

A name takes as many characters as it can. Two steps a token bound the reading, since one
token is taken for every argument that is begun and one for every list of arguments.
-/

set_option autoImplicit false

namespace DocPreview

inductive TypeSuffix where
  /-- An array of so many dimensions. -/
  | array (rank : Nat)
  | nullable
  | pointer
deriving DecidableEq, Repr

/-- A type name with its generic arguments and its suffixes, leftmost first. -/
inductive TypeExpr where
  | named (name : String) (arguments : List TypeExpr) (suffixes : List TypeSuffix)

inductive TypeToken where
  | name (text : List Char)
  /-- One of the marks of the grammar. -/
  | mark (char : Char)
deriving DecidableEq, Repr

namespace TypeToken

/-- An ASCII letter, `_` or `@`. -/
def beginsName (char : Char) : Bool :=
  char.isAlpha || char == '_' || char == '@'

/-- An ASCII letter or digit, `_`, `.` or the mark of a generic arity. -/
def continuesName (char : Char) : Bool :=
  char.isAlphanum || char == '_' || char == '.' || char == '\x60'

def isMark (char : Char) : Bool :=
  char == '<' || char == '>' || char == ',' || char == '[' || char == ']' || char == '?' ||
    char == '*'

/-- The tokens of a text; none when a character is neither blank nor part of a token. -/
def scan : List Char → Option (List TypeToken)
  | [] => some []
  | char :: chars =>
    if beginsName char then
      (scan (chars.dropWhile continuesName)).map
        (.name (char :: chars.takeWhile continuesName) :: ·)
    else if isMark char then (scan chars).map (.mark char :: ·)
    else if isBlank char then scan chars
    else none
termination_by chars => chars.length
decreasing_by
  · exact Nat.lt_succ_of_le (List.dropWhile_sublist _).length_le
  · exact Nat.lt_succ_self _
  · exact Nat.lt_succ_self _

end TypeToken

namespace TypeExpr

/-- The suffixes that the tokens begin with. Inside brackets, `openRank` counts the dimensions
met so far; a bracket that holds anything but commas, or is not closed, is refused. -/
def readSuffixes : (openRank : Option Nat) → List TypeToken →
    Option (List TypeSuffix × List TypeToken)
  | none, .mark '[' :: rest => readSuffixes (some 1) rest
  | none, .mark '?' :: rest => (readSuffixes none rest).map fun (suffixes, rest) =>
      (.nullable :: suffixes, rest)
  | none, .mark '*' :: rest => (readSuffixes none rest).map fun (suffixes, rest) =>
      (.pointer :: suffixes, rest)
  | none, rest => some ([], rest)
  | some rank, .mark ',' :: rest => readSuffixes (some (rank + 1)) rest
  | some rank, .mark ']' :: rest => (readSuffixes none rest).map fun (suffixes, rest) =>
      (.array rank :: suffixes, rest)
  | some _, _ => none

mutual

/-- The type that the tokens begin with, and the tokens after it. -/
def read : (steps : Nat) → List TypeToken → Option (TypeExpr × List TypeToken)
  | 0, _ => none
  | steps + 1, .name name :: .mark '<' :: rest => do
    let (arguments, rest) ← readArguments steps rest
    let (suffixes, rest) ← readSuffixes none rest
    return (.named (String.ofList name) arguments suffixes, rest)
  | _ + 1, .name name :: rest => do
    let (suffixes, rest) ← readSuffixes none rest
    return (.named (String.ofList name) [] suffixes, rest)
  | _ + 1, _ => none

/-- The types up to the closing angle bracket; at least one. -/
def readArguments : (steps : Nat) → List TypeToken → Option (List TypeExpr × List TypeToken)
  | 0, _ => none
  | steps + 1, tokens => do
    let (argument, rest) ← read steps tokens
    match rest with
    | .mark ',' :: rest =>
      let (arguments, rest) ← readArguments steps rest
      return (argument :: arguments, rest)
    | .mark '>' :: rest => return ([argument], rest)
    | _ => none

end

def ofTokens? (tokens : List TypeToken) : Option TypeExpr :=
  match read (2 * tokens.length + 1) tokens with
  | some (expr, []) => some expr
  | _ => none

def ofText? (text : String) : Option TypeExpr :=
  (TypeToken.scan text.toList).bind ofTokens?

end TypeExpr

def isVoid (type : String) : Bool :=
  trimmed type ∈ ["", "void", "Void", "System.Void"]

end DocPreview

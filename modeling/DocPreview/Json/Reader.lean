import DocPreview.Json.Basic

/-!
# Reading JSON text

The reader takes exactly one value with optional white space around it. It accepts no byte order
mark, no comment, no trailing comma and no raw control character in a string. Nesting has no
limit: the step count that bounds the recursion is the length of the text, and every step reads
a character.
-/

set_option autoImplicit false

namespace DocPreview.Json

/-- The four characters that may stand between the parts of a value. -/
def isSpace (char : Char) : Bool :=
  char == ' ' || char == '\t' || char == '\n' || char == '\r'

def skipSpace (chars : List Char) : List Char :=
  chars.dropWhile isSpace

def hexDigit? (char : Char) : Option Nat :=
  if '0' ≤ char && char ≤ '9' then some (char.toNat - 48)
  else if 'a' ≤ char && char ≤ 'f' then some (char.toNat - 87)
  else if 'A' ≤ char && char ≤ 'F' then some (char.toNat - 55)
  else none

def hexUnit? (first second third fourth : Char) : Option Nat := do
  let first ← hexDigit? first
  let second ← hexDigit? second
  let third ← hexDigit? third
  let fourth ← hexDigit? fourth
  return ((first * 16 + second) * 16 + third) * 16 + fourth

def shortEscape? : Char → Option Nat
  | '"' => some 0x22
  | '\\' => some 0x5C
  | '/' => some 0x2F
  | 'b' => some 0x8
  | 'f' => some 0xC
  | 'n' => some 0xA
  | 'r' => some 0xD
  | 't' => some 0x9
  | _ => none

/-- The units of a string literal after its opening quote, and what follows the closing one. -/
def scanString : List Char → Option (List Nat × List Char)
  | [] => none
  | '"' :: rest => some ([], rest)
  | '\\' :: 'u' :: first :: second :: third :: fourth :: rest => do
    let unit ← hexUnit? first second third fourth
    let (units, rest) ← scanString rest
    return (unit :: units, rest)
  | '\\' :: escape :: rest => do
    let unit ← shortEscape? escape
    let (units, rest) ← scanString rest
    return (unit :: units, rest)
  | char :: rest =>
    if char == '\\' || char.toNat < 0x20 then none
    else do
      let (units, rest) ← scanString rest
      return (char.toNat :: units, rest)

/-- The text that units spell; none when a surrogate has no partner. -/
def joinUnits? : List Nat → Option (List Char)
  | [] => some []
  | high :: rest =>
    if 0xD800 ≤ high && high < 0xDC00 then
      match rest with
      | [] => none
      | low :: rest =>
        if 0xDC00 ≤ low && low < 0xE000 then do
          let chars ← joinUnits? rest
          return Char.ofNat (0x10000 + (high - 0xD800) * 0x400 + (low - 0xDC00)) :: chars
        else none
    else if 0xDC00 ≤ high && high < 0xE000 then none
    else do
      let chars ← joinUnits? rest
      return Char.ofNat high :: chars

def isDigit (char : Char) : Bool :=
  '0' ≤ char && char ≤ '9'

def ofDigits (digits : List Char) : Nat :=
  digits.foldl (fun value digit => value * 10 + (digit.toNat - 48)) 0

/-- The digits of the whole part: one zero, or digits that do not begin with zero. -/
def scanWhole : List Char → Option (List Char × List Char)
  | '0' :: rest => some (['0'], rest)
  | chars =>
    match chars.span isDigit with
    | ([], _) => none
    | found => some found

def scanFraction : List Char → Option (List Char × List Char)
  | '.' :: rest =>
    match rest.span isDigit with
    | ([], _) => none
    | (digits, rest) => some ('.' :: digits, rest)
  | chars => some ([], chars)

def scanExponent : List Char → Option (List Char × List Char)
  | mark :: rest =>
    if mark == 'e' || mark == 'E' then
      let (sign, rest) := match rest with
        | '+' :: rest => (['+'], rest)
        | '-' :: rest => (['-'], rest)
        | rest => ([], rest)
      match rest.span isDigit with
      | ([], _) => none
      | (digits, rest) => some (mark :: sign ++ digits, rest)
    else some ([], mark :: rest)
  | [] => some ([], [])

def scanNumber (chars : List Char) : Option (Json × List Char) := do
  let (sign, rest) := match chars with
    | '-' :: rest => (['-'], rest)
    | rest => ([], rest)
  let (whole, rest) ← scanWhole rest
  let (fraction, rest) ← scanFraction rest
  let (exponent, rest) ← scanExponent rest
  if sign.isEmpty && fraction.isEmpty && exponent.isEmpty then
    return (.natural (ofDigits whole), rest)
  else
    return (.otherNumber (String.ofList (sign ++ whole ++ fraction ++ exponent)), rest)

/-- The name of a field and the colon after it, up to the first character of its value. -/
def scanName : List Char → Option (String × List Char)
  | '"' :: rest => do
    let (units, rest) ← scanString rest
    let name ← joinUnits? units
    match skipSpace rest with
    | ':' :: rest => some (String.ofList name, skipSpace rest)
    | _ => none
  | _ => none

mutual

def scanValue : Nat → List Char → Option (Json × List Char)
  | 0, _ => none
  | steps + 1, chars =>
    match chars with
    | 'n' :: 'u' :: 'l' :: 'l' :: rest => some (.null, rest)
    | 't' :: 'r' :: 'u' :: 'e' :: rest => some (.bool true, rest)
    | 'f' :: 'a' :: 'l' :: 's' :: 'e' :: rest => some (.bool false, rest)
    | '"' :: rest => do
      let (units, rest) ← scanString rest
      match joinUnits? units with
      | some text => return (.string (String.ofList text), rest)
      | none => return (.brokenString, rest)
    | '[' :: rest =>
      match skipSpace rest with
      | ']' :: rest => some (.array [], rest)
      | rest => do
        let (items, rest) ← scanItems steps rest
        return (.array items, rest)
    | '\x7b' :: rest =>
      match skipSpace rest with
      | '\x7d' :: rest => some (.object [], rest)
      | rest => do
        let (fields, rest) ← scanFields steps rest
        return (.object fields, rest)
    | chars => scanNumber chars

/-- The items of an array up to its closing bracket; at least one. -/
def scanItems : Nat → List Char → Option (List Json × List Char)
  | 0, _ => none
  | steps + 1, chars => do
    let (item, rest) ← scanValue steps chars
    match skipSpace rest with
    | ',' :: rest =>
      let (items, rest) ← scanItems steps (skipSpace rest)
      return (item :: items, rest)
    | ']' :: rest => return ([item], rest)
    | _ => none

/-- The fields of an object up to its closing brace; at least one. -/
def scanFields : Nat → List Char → Option (List (String × Json) × List Char)
  | 0, _ => none
  | steps + 1, chars => do
    let (name, rest) ← scanName chars
    let (value, rest) ← scanValue steps rest
    match skipSpace rest with
    | ',' :: rest =>
      let (fields, rest) ← scanFields steps (skipSpace rest)
      return ((name, value) :: fields, rest)
    | '\x7d' :: rest => return ([(name, value)], rest)
    | _ => none

end

def ofText? (text : String) : Option Json := do
  let chars := text.toList
  let (value, rest) ← scanValue (chars.length + 1) (skipSpace chars)
  if (skipSpace rest).isEmpty then some value else none

end DocPreview.Json

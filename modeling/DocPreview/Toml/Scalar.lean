import DocPreview.Json.Reader
import DocPreview.Number.Decimal

/-!
# TOML scalars

Texts between quotes, numbers and dates. A scanner takes as much as belongs to the scalar and
gives what follows; whether that may follow is for its caller to say.
-/

set_option autoImplicit false

namespace DocPreview.Toml

def isBlank (char : Char) : Bool :=
  char == ' ' || char == '\t'

/-- Whether a character may stand in a comment or between quotes. -/
def isPrintable (char : Char) : Bool :=
  char == '\t' || (' ' ≤ char && char.toNat != 0x7F)

def isDigit (char : Char) : Bool :=
  '0' ≤ char && char ≤ '9'

/-! ## Texts -/

def scalar? (code : Nat) : Option Char :=
  if code < 0xD800 || (0xDFFF < code && code < 0x110000) then some (Char.ofNat code) else none

def hexScalar? (digits : List Char) : Option Char := do
  let values ← digits.mapM Json.hexDigit?
  scalar? (values.foldl (fun code value => code * 16 + value) 0)

def shortEscape? : Char → Option Char
  | 'b' => some (Char.ofNat 0x8)
  | 't' => some '\t'
  | 'n' => some '\n'
  | 'f' => some (Char.ofNat 0xC)
  | 'r' => some '\r'
  | '"' => some '"'
  | '\\' => some '\\'
  | _ => none

def preceded (chars : List Char) (scanned : Option (List Char × List Char)) :
    Option (List Char × List Char) :=
  scanned.map fun (text, rest) => (chars ++ text, rest)

/-- A text with escapes, behind its opening quote. -/
def scanBasic : List Char → Option (List Char × List Char)
  | [] => none
  | '"' :: rest => some ([], rest)
  | '\\' :: 'u' :: a :: b :: c :: d :: rest =>
    (hexScalar? [a, b, c, d]).bind fun char => preceded [char] (scanBasic rest)
  | '\\' :: 'U' :: a :: b :: c :: d :: e :: f :: g :: h :: rest =>
    (hexScalar? [a, b, c, d, e, f, g, h]).bind fun char => preceded [char] (scanBasic rest)
  | '\\' :: escape :: rest =>
    (shortEscape? escape).bind fun char => preceded [char] (scanBasic rest)
  | char :: rest => if isPrintable char then preceded [char] (scanBasic rest) else none

/-- A text without escapes, behind its opening quote. -/
def scanLiteral : List Char → Option (List Char × List Char)
  | [] => none
  | '\'' :: rest => some ([], rest)
  | char :: rest => if isPrintable char then preceded [char] (scanLiteral rest) else none

/-- The end of a text of several lines, behind its three closing quotes. Up to two further
quotes belong to the text. -/
def closeLines (quote : Char) : List Char → List Char × List Char
  | first :: second :: rest =>
    if first = quote then
      if second = quote then ([quote, quote], rest) else ([quote], second :: rest)
    else ([], first :: second :: rest)
  | [only] => if only = quote then ([quote], []) else ([], [only])
  | [] => ([], [])

def endsLine (chars : List Char) : Bool :=
  match chars.dropWhile isBlank with
  | '\n' :: _ | '\r' :: '\n' :: _ => true
  | _ => false

/-- A text of several lines with escapes, behind its opening quotes. While `joining`, blanks and
line ends are passed over; a backslash at the end of a line begins that. -/
def scanBasicLines (joining : Bool) : List Char → Option (List Char × List Char)
  | [] => none
  | '"' :: '"' :: '"' :: rest => some (closeLines '"' rest)
  | '\r' :: '\n' :: rest =>
    preceded (if joining then [] else ['\n']) (scanBasicLines joining rest)
  | '\\' :: 'u' :: a :: b :: c :: d :: rest =>
    (hexScalar? [a, b, c, d]).bind fun char => preceded [char] (scanBasicLines false rest)
  | '\\' :: 'U' :: a :: b :: c :: d :: e :: f :: g :: h :: rest =>
    (hexScalar? [a, b, c, d, e, f, g, h]).bind fun char =>
      preceded [char] (scanBasicLines false rest)
  | '\\' :: escape :: rest =>
    match shortEscape? escape with
    | some char => preceded [char] (scanBasicLines false rest)
    | none =>
      if endsLine (escape :: rest) then scanBasicLines true (escape :: rest) else none
  | char :: rest =>
    if joining && (isBlank char || char == '\n') then scanBasicLines true rest
    else if isPrintable char || char == '\n' then
      preceded [char] (scanBasicLines false rest)
    else none

/-- A text of several lines without escapes, behind its opening quotes. -/
def scanLiteralLines : List Char → Option (List Char × List Char)
  | [] => none
  | '\'' :: '\'' :: '\'' :: rest => some (closeLines '\'' rest)
  | '\r' :: '\n' :: rest => preceded ['\n'] (scanLiteralLines rest)
  | char :: rest =>
    if isPrintable char || char == '\n' then preceded [char] (scanLiteralLines rest) else none

def dropLineEnd : List Char → List Char
  | '\n' :: rest => rest
  | '\r' :: '\n' :: rest => rest
  | chars => chars

def scanText? : List Char → Option (List Char × List Char)
  | '"' :: '"' :: '"' :: rest => scanBasicLines false (dropLineEnd rest)
  | '"' :: rest => scanBasic rest
  | '\'' :: '\'' :: '\'' :: rest => scanLiteralLines (dropLineEnd rest)
  | '\'' :: rest => scanLiteral rest
  | _ => none

/-! ## Numbers -/

/-- Digits, each with an underscore before it or not. -/
def moreDigits (isDigit : Char → Bool) : List Char → List Char × List Char
  | [] => ([], [])
  | '_' :: digit :: rest =>
    if isDigit digit then
      let (digits, rest) := moreDigits isDigit rest
      (digit :: digits, rest)
    else ([], '_' :: digit :: rest)
  | digit :: rest =>
    if isDigit digit then
      let (digits, rest) := moreDigits isDigit rest
      (digit :: digits, rest)
    else ([], digit :: rest)

def scanDigits? (isDigit : Char → Bool) : List Char → Option (List Char × List Char)
  | first :: rest =>
    if isDigit first then
      let (digits, rest) := moreDigits isDigit rest
      some (first :: digits, rest)
    else none
  | [] => none

def scanWhole? : List Char → Option (List Char × List Char)
  | '0' :: rest => some (['0'], rest)
  | chars => scanDigits? isDigit chars

def scanSign : List Char → Bool × List Char
  | '-' :: rest => (true, rest)
  | '+' :: rest => (false, rest)
  | chars => (false, chars)

/-- The exponent of a number as it is written, which may be missing. -/
def scanExponent? : List Char → Option (List Char × List Char)
  | mark :: rest =>
    if mark == 'e' || mark == 'E' then
      let (negative, rest) := scanSign rest
      (scanDigits? isDigit rest).map fun (digits, rest) =>
        ('e' :: (if negative then '-' :: digits else digits), rest)
    else none
  | [] => none

/-- What is written between the whole part of a number and what follows: a fraction, an
exponent, or both. -/
def scanFraction? : List Char → Option (List Char × List Char)
  | '.' :: rest => do
    let (digits, rest) ← scanDigits? isDigit rest
    let (exponent, rest) := (scanExponent? rest).getD ([], rest)
    return ('.' :: digits ++ exponent, rest)
  | chars => scanExponent? chars

/-- A number that is no integer. One that is too large is refused. -/
def scanFloat? (chars : List Char) : Option (Json × List Char) := do
  let (negative, rest) := scanSign chars
  let (whole, rest) ← scanWhole? rest
  let (fraction, rest) ← scanFraction? rest
  let literal := String.ofList (whole ++ fraction)
  let value ← Number.ofText? literal
  if value.isInf && !negative then none
  else some (.otherNumber (if negative then "-" ++ literal else literal), rest)

/-- Infinity, or what is no number. -/
def scanSpecial? (chars : List Char) : Option (Json × List Char) :=
  let (negative, rest) := scanSign chars
  let signed (word : String) : Json := .otherNumber (if negative then "-" ++ word else word)
  match rest with
  | 'i' :: 'n' :: 'f' :: rest => some (signed "inf", rest)
  | 'n' :: 'a' :: 'n' :: rest => some (signed "nan", rest)
  | _ => none

def digitsValue (base : Nat) (digits : List Char) : Nat :=
  digits.foldl (fun value digit => value * base + (Json.hexDigit? digit).getD 0) 0

def bases : List (Char × Nat × (Char → Bool)) :=
  [('x', 16, fun digit => (Json.hexDigit? digit).isSome),
   ('o', 8, fun digit => '0' ≤ digit && digit ≤ '7'),
   ('b', 2, fun digit => digit == '0' || digit == '1')]

/-- The number above the largest integer, which is also the size of the smallest one. -/
def integerLimit : Nat :=
  Nat.pow 2 63

def integer? (negative : Bool) (magnitude : Nat) : Option Json :=
  if negative then
    if magnitude = 0 then some (.natural 0)
    else if magnitude ≤ integerLimit then some (.otherNumber ("-" ++ Nat.repr magnitude))
    else none
  else if magnitude < integerLimit then some (.natural magnitude)
  else none

/-- An integer in decimal digits, or in those of the base that a mark names. -/
def scanInteger? (chars : List Char) : Option (Json × List Char) :=
  match chars with
  | '0' :: mark :: rest =>
    match bases.lookup mark with
    | some (base, isDigit) => do
      let (digits, rest) ← scanDigits? isDigit rest
      let value ← integer? false (digitsValue base digits)
      return (value, rest)
    | none => some (.natural 0, mark :: rest)
  | chars => do
    let (negative, rest) := scanSign chars
    let (digits, rest) ← scanWhole? rest
    let value ← integer? negative (digitsValue 10 digits)
    return (value, rest)

/-! ## Dates -/

/-- A number of exactly so many digits within the bounds. -/
def scanField? (digits first last : Nat) (chars : List Char) : Option (Nat × List Char) :=
  let field := chars.take digits
  let value := digitsValue 10 field
  if field.length = digits && field.all isDigit && first ≤ value && value ≤ last then
    some (value, chars.drop digits)
  else none

def scanMark? (mark : Char) : List Char → Option (List Char)
  | first :: rest => if first = mark then some rest else none
  | [] => none

def monthLength (year month : Nat) : Nat :=
  if month = 2 then
    if year % 4 = 0 ∧ (year % 100 ≠ 0 ∨ year % 400 = 0) then 29 else 28
  else if month = 4 ∨ month = 6 ∨ month = 9 ∨ month = 11 then 30
  else 31

def scanDate? (chars : List Char) : Option (List Char) := do
  let (year, rest) ← scanField? 4 0 9999 chars
  let (month, rest) ← scanField? 2 1 12 (← scanMark? '-' rest)
  let (_, rest) ← scanField? 2 1 (monthLength year month) (← scanMark? '-' rest)
  return rest

def scanTime? (chars : List Char) : Option (List Char) := do
  let (_, rest) ← scanField? 2 0 23 chars
  let (_, rest) ← scanField? 2 0 59 (← scanMark? ':' rest)
  let (_, rest) ← scanField? 2 0 60 (← scanMark? ':' rest)
  match rest with
  | '.' :: digit :: more =>
    return if isDigit digit then more.dropWhile isDigit else '.' :: digit :: more
  | rest => return rest

/-- The distance from universal time; gives what follows it. -/
def scanOffset? : List Char → Option (List Char)
  | 'Z' :: rest | 'z' :: rest => some rest
  | '+' :: rest | '-' :: rest => do
    let (_, rest) ← scanField? 2 0 23 rest
    let (_, rest) ← scanField? 2 0 59 (← scanMark? ':' rest)
    return rest
  | _ => none

/-- The time behind a date, which may be missing; gives what follows it. -/
def dropTime (chars : List Char) : List Char :=
  match chars with
  | mark :: rest =>
    if mark == 'T' || mark == 't' || mark == ' ' then
      match scanTime? rest with
      | some rest => (scanOffset? rest).getD rest
      | none => chars
    else chars
  | [] => []

/-- A date, a time, or both. As a value it is a record with one field of its own. -/
def scanMoment? (chars : List Char) : Option (Json × List Char) := do
  let rest ← ((scanDate? chars).map dropTime).or (scanTime? chars)
  let written := chars.take (chars.length - rest.length)
  return (.object [("moment", .string (String.ofList written))], rest)

def scanTruth? : List Char → Option (Json × List Char)
  | 't' :: 'r' :: 'u' :: 'e' :: rest => some (.bool true, rest)
  | 'f' :: 'a' :: 'l' :: 's' :: 'e' :: rest => some (.bool false, rest)
  | _ => none

def scanScalar? (chars : List Char) : Option (Json × List Char) :=
  ((scanText? chars).map fun (text, rest) => (.string (String.ofList text), rest)).or <|
  (scanTruth? chars).or <|
  (scanMoment? chars).or <|
  (scanFloat? chars).or <|
  (scanSpecial? chars).or <|
  scanInteger? chars

end DocPreview.Toml

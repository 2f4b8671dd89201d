import DocPreview.Number.Binary
import DocPreview.Text.Blank

/-!
# Numbers as decimal text

A double is written with the fewest digits that read back as the same double; of two equally
short texts the nearer one is taken, and of two equally near ones the one with an even last
digit. Plain notation has no exponent.
-/

set_option autoImplicit false

namespace DocPreview.Number

/-! ## Writing -/

/-- A decimal number `digits * 10 ^ exponent`. -/
structure Decimal where
  digits : Nat
  exponent : Int

/-- Twice the bounds of the reals that round to a double, and twice the double itself, all over
one common denominator. -/
structure Interval where
  lower : Nat
  value : Nat
  upper : Nat
  denominator : Nat
  /-- Whether the bounds themselves round to the double. -/
  closed : Bool

/-- The interval of the reals that round to a positive double. -/
def Interval.ofBinary (binary : Binary) : Interval :=
  let isPower := binary.mantissa == Nat.pow 2 52 && -1074 < binary.exponent
  let scale := Nat.pow 2 (binary.exponent - 2).toNat
  { lower := (4 * binary.mantissa - if isPower then 1 else 2) * scale
    value := 4 * binary.mantissa * scale
    upper := (4 * binary.mantissa + 2) * scale
    denominator := Nat.pow 2 (2 - binary.exponent).toNat
    closed := binary.mantissa % 2 == 0 }

def Decimal.fraction (decimal : Decimal) : Nat × Nat :=
  (decimal.digits * Nat.pow 10 decimal.exponent.toNat, Nat.pow 10 (-decimal.exponent).toNat)

def Interval.holds (interval : Interval) (decimal : Decimal) : Bool :=
  let (numerator, denominator) := decimal.fraction
  let point := numerator * interval.denominator
  let lower := interval.lower * denominator
  let upper := interval.upper * denominator
  if interval.closed then lower ≤ point && point ≤ upper else lower < point && point < upper

/-- The distance of the decimal number from the middle, times a factor that depends only on its
exponent. -/
def Interval.distance (interval : Interval) (decimal : Decimal) : Nat :=
  let (numerator, denominator) := decimal.fraction
  let point := numerator * interval.denominator
  let middle := interval.value * denominator
  if point ≤ middle then middle - point else point - middle

/-- The neighbours of the middle on the grid of this power of ten that lie in the interval, the
nearer one. -/
def Interval.onGrid? (interval : Interval) (exponent : Int) : Option Decimal :=
  let floor :=
    interval.value * Nat.pow 10 (-exponent).toNat /
      (interval.denominator * Nat.pow 10 exponent.toNat)
  let below : Decimal := ⟨floor, exponent⟩
  let above : Decimal := ⟨floor + 1, exponent⟩
  match 0 < floor && interval.holds below, interval.holds above with
  | true, true =>
    let left := interval.distance below
    let right := interval.distance above
    if left < right || (left == right && floor % 2 == 0) then some below else some above
  | true, false => some below
  | false, true => some above
  | false, false => none

/-- The decimal of the coarsest grid that has one in the interval, from `exponent` down. -/
def Interval.coarsest (interval : Interval) : (steps : Nat) → (exponent : Int) → Decimal
  | 0, exponent => ⟨0, exponent⟩
  | steps + 1, exponent =>
    match interval.onGrid? exponent with
    | some decimal => decimal
    | none => interval.coarsest steps (exponent - 1)

/-- The shortest decimal that reads back as the positive double. -/
def shortest (value : Float) : Decimal :=
  let interval := Interval.ofBinary (.ofFloat value)
  let whole := interval.upper / interval.denominator
  let top : Int := if whole = 0 then 0 else (Nat.repr whole).length
  let decimal := interval.coarsest 700 top
  dropZeros 330 decimal
where
  /-- Moves trailing zeros of the digits into the exponent. -/
  dropZeros : Nat → Decimal → Decimal
    | 0, decimal => decimal
    | steps + 1, decimal =>
      if decimal.digits ≠ 0 ∧ decimal.digits % 10 = 0 then
        dropZeros steps ⟨decimal.digits / 10, decimal.exponent + 1⟩
      else decimal

def Decimal.split (decimal : Decimal) : List Char × List Char :=
  let digits := (Nat.repr decimal.digits).toList
  if 0 ≤ decimal.exponent then
    (digits ++ List.replicate decimal.exponent.toNat '0', [])
  else
    let places := (-decimal.exponent).toNat
    let padded := List.replicate (places + 1 - digits.length) '0' ++ digits
    (padded.take (padded.length - places), padded.drop (padded.length - places))

def signed (value : Float) (magnitude : String) : String :=
  if Binary.isNegative value then "-" ++ magnitude else magnitude

def plainText (value : Float) : String :=
  let (whole, fraction) :=
    if value == 0.0 then (['0'], []) else (shortest value.abs).split
  signed value (String.ofList (if fraction.isEmpty then whole else whole ++ '.' :: fraction))

/-- A number that shows that it is not a whole number type: with a fraction, or with an exponent
when it is very large or very small. -/
def exactText (value : Float) : String :=
  if value.isNaN then "NaN"
  else if value.isInf then signed value "inf"
  else if value == 0.0 then signed value "0.0"
  else
    let magnitude := value.abs
    let decimal := shortest magnitude
    if 1e16 ≤ magnitude || magnitude < 1e-4 then
      let digits := (Nat.repr decimal.digits).toList
      let exponent := decimal.exponent + (digits.length - 1 : Nat)
      let mantissa := digits.take 1 ++ (if digits.length ≤ 1 then [] else '.' :: digits.drop 1)
      signed value (String.ofList mantissa ++ "e" ++ toString exponent)
    else
      let (whole, fraction) := decimal.split
      signed value
        (String.ofList (whole ++ '.' :: (if fraction.isEmpty then ['0'] else fraction)))

/-! ## Reading -/

def isDigit (char : Char) : Bool :=
  '0' ≤ char && char ≤ '9'

def digitsValue (digits : List Char) : Nat :=
  digits.foldl (fun value digit => value * 10 + (digit.toNat - 48)) 0

def ofDecimal (digits : Nat) (exponent : Int) : Float :=
  let size : Int := (Nat.repr digits).length
  if digits = 0 || exponent + size < -400 then 0.0
  else if 400 < exponent + size then 1.0 / 0.0
  else if exponent < 0 then Float.ofScientific digits true exponent.natAbs
  else Float.ofScientific digits false exponent.natAbs

/-- The digits before and after a decimal point, and what follows them. At least one digit has
to stand there. -/
def scanDigits? (chars : List Char) : Option (List Char × List Char × List Char) :=
  let (whole, rest) := chars.span isDigit
  let (fraction, rest) :=
    match rest with
    | '.' :: rest => rest.span isDigit
    | rest => ([], rest)
  if whole.isEmpty && fraction.isEmpty then none else some (whole, fraction, rest)

def readExponent? : List Char → Option Int
  | [] => some 0
  | mark :: rest =>
    if mark == 'e' || mark == 'E' then
      let (negative, digits) :=
        match rest with
        | '-' :: rest => (true, rest)
        | '+' :: rest => (false, rest)
        | rest => (false, rest)
      if digits.isEmpty || !digits.all isDigit then none
      else
        let magnitude : Int := min (digitsValue ((digits.dropWhile (· == '0')).take 10)) 1000000
        some (if negative then -magnitude else magnitude)
    else none

/-- A number without a sign: digits with an optional point and an optional exponent, or one of
the words for infinity and for what is no number. -/
def readMagnitude? (chars : List Char) : Option Float :=
  let word := asciiLower (String.ofList chars)
  if word == "inf" || word == "infinity" then some (1.0 / 0.0)
  else if word == "nan" then some (0.0 / 0.0)
  else do
    let (whole, fraction, rest) ← scanDigits? chars
    let exponent ← readExponent? rest
    return ofDecimal (digitsValue (whole ++ fraction)) (exponent - fraction.length)

def ofText? (text : String) : Option Float :=
  match text.toList with
  | '-' :: rest => (readMagnitude? rest).map fun value => -value
  | '+' :: rest => readMagnitude? rest
  | chars => readMagnitude? chars

end DocPreview.Number

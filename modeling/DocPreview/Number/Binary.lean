/-!
# Binary fractions

A finite double is an integer times a power of two. Seen so, its remainder, its rounding and its
decimal digits are matters of integer arithmetic.
-/

set_option autoImplicit false

namespace DocPreview.Number

/-- The magnitude `mantissa * 2 ^ exponent` of a finite double. -/
structure Binary where
  mantissa : Nat
  exponent : Int

namespace Binary

def ofFloat (value : Float) : Binary :=
  let bits := value.toBits.toNat
  let fraction := bits % Nat.pow 2 52
  let exponent : Nat := bits / Nat.pow 2 52 % Nat.pow 2 11
  if exponent = 0 then ⟨fraction, -1074⟩
  else ⟨Nat.pow 2 52 + fraction, Int.ofNat exponent - 1075⟩

/-- Whether the sign of a double is negative, which holds also of the negative zero. -/
def isNegative (value : Float) : Bool :=
  Nat.pow 2 63 ≤ value.toBits.toNat

/-- Halves an even mantissa, at most `steps` times. -/
def reduce : (steps : Nat) → Binary → Binary
  | 0, binary => binary
  | steps + 1, binary =>
    if binary.mantissa ≠ 0 ∧ binary.mantissa % 2 = 0 then
      reduce steps ⟨binary.mantissa / 2, binary.exponent + 1⟩
    else binary

/-- The double of a magnitude that a double has. -/
def toFloat (binary : Binary) : Float :=
  let reduced := reduce 2200 binary
  (Float.ofNat reduced.mantissa).scaleB reduced.exponent

/-- The two mantissas over the smaller of the two exponents. -/
def align (left right : Binary) : Nat × Nat × Int :=
  let exponent := min left.exponent right.exponent
  (left.mantissa * Nat.pow 2 (left.exponent - exponent).toNat,
    right.mantissa * Nat.pow 2 (right.exponent - exponent).toNat, exponent)

end Binary

/-- The remainder of a division toward zero. It has the sign of the dividend. -/
def remainder (left right : Float) : Float :=
  if left.isNaN || right.isNaN || left.isInf || right == 0.0 then 0.0 / 0.0
  else if right.isInf || left == 0.0 then left
  else
    let (dividend, divisor, exponent) := Binary.align (.ofFloat left) (.ofFloat right)
    let magnitude := Binary.toFloat ⟨dividend % divisor, exponent⟩
    if Binary.isNegative left then -magnitude else magnitude

/-- The whole number nearest to a value; of two equally near ones the upper. It is found as
`⌊2 * value - ⌊value⌋⌋` in doubles and has the sign of the value, so a negative value that is lost
beside one gives minus one, and another one from a half up gives the negative zero. -/
def roundHalfUp (value : Float) : Float :=
  let lower := value.floor
  if lower == value then value
  else
    let magnitude := (2.0 * value - lower).floor.abs
    if Binary.isNegative value then -magnitude else magnitude

end DocPreview.Number

/-! Decimal numbers, digits times a power of ten, and the doubles nearest to them. -/
namespace SearchQuery

/-- The number digits · 10^exponent, with its sign apart so that zero has one too. -/
structure Decimal where
  negative : Bool
  digits : Nat
  exponent : Int
  deriving DecidableEq, Repr

namespace Decimal

def digitCount (n : Nat) : Nat := (Nat.toDigits 10 n).length

/-- The same number without zeros at the end of its digits. The bound is the number of digits. -/
def stripZeros : Nat → Decimal → Decimal
  | 0, d => d
  | bound + 1, d =>
    if d.digits ≠ 0 ∧ d.digits % 10 = 0 then
      stripZeros bound ⟨d.negative, d.digits / 10, d.exponent + 1⟩
    else d

/-- The double nearest to a decimal. Decimals of more than four hundred digits before or after the
point are infinite or zero; the bounds keep the powers of ten small. -/
def toFloat (d : Decimal) : Float :=
  let leading := d.exponent + digitCount d.digits
  let size : Float :=
    if d.digits = 0 ∨ leading < -400 then 0.0
    else if 400 < leading then 1.0 / 0.0
    else if d.exponent < 0 then Float.ofScientific d.digits true d.exponent.natAbs
    else Float.ofScientific d.digits false d.exponent.natAbs
  if d.negative then -size else size

end Decimal

end SearchQuery

import SearchQuery.Decimal.Basic

/-! The shortest decimal that reads back as a given double. A finite double is m · 2^q, and the
reals that round to it form an interval around it, whose ends belong to it when m is even. Grids of
one digit, two digits and so on are tried in turn, and the first grid with a point in the interval
gives the answer. -/
namespace SearchQuery.Decimal

/-- The reals that round to a double, as three numerators over one denominator. -/
structure Rounding where
  low : Nat
  value : Nat
  high : Nat
  unit : Nat
  closed : Bool

/-- The interval of m · 2^q. Below a power of two the next double is only half as far. -/
def Rounding.of (m : Nat) (q : Int) (atPower : Bool) : Rounding :=
  let scale := Nat.pow 2 (q - 2).toNat
  { low := (4 * m - if atPower then 1 else 2) * scale
    value := 4 * m * scale
    high := (4 * m + 2) * scale
    unit := Nat.pow 2 (2 - q).toNat
    closed := m % 2 == 0 }

/-- The exponent of the leading digit of a positive fraction. -/
def leadingExponent (value unit : Nat) : Int :=
  if unit ≤ value then digitCount (value / unit) - 1
  else - (digitCount ((unit + value - 1) / value - 1) : Int)

/-- Ten to a power, or one where the power is negative. -/
def powerOfTen (k : Int) : Nat := Nat.pow 10 k.toNat

/-- Whether the point n · 10^k reads back. -/
def Rounding.holds (r : Rounding) (n : Nat) (k : Int) : Bool :=
  let point := n * powerOfTen k * r.unit
  let grow := powerOfTen (-k)
  if r.closed then r.low * grow ≤ point && point ≤ r.high * grow
  else r.low * grow < point && point < r.high * grow

/-- The point next to the value on the grid of 10^k, if it reads back. Of two the nearer one is
taken, and of two equally near the even one. -/
def Rounding.onGrid? (r : Rounding) (k : Int) : Option Nat :=
  let scaled := r.value * powerOfTen (-k)
  let step := powerOfTen k * r.unit
  let below := scaled / step
  let twice := 2 * (scaled - below * step)
  let upFirst := step < twice || (step == twice && below % 2 == 1)
  match r.holds below k, r.holds (below + 1) k with
  | true, true => some (if upFirst then below + 1 else below)
  | true, false => some below
  | false, true => some (below + 1)
  | false, false => none

/-- Seventeen digits are enough for every double. -/
def Rounding.shortest (r : Rounding) : Decimal :=
  let top := leadingExponent r.value r.unit
  let found := (List.range 17).findSome? fun (n : Nat) =>
    let k := top - n
    (r.onGrid? k).map fun digits => stripZeros (digitCount digits) ⟨false, digits, k⟩
  found.getD ⟨false, 0, 0⟩

/-- The bit above the fraction, which is not written in a double. -/
def hidden : Nat := 0x10000000000000

/-- None for the infinities and for what is not a number. -/
def shortest? (x : Float) : Option Decimal :=
  let bits : Nat := x.toBits.toNat
  let negative := bits / 0x8000000000000000 == 1
  let biased : Nat := bits / hidden % 2048
  let fraction : Nat := bits % hidden
  if biased = 2047 then none
  else if biased = 0 ∧ fraction = 0 then some ⟨negative, 0, 0⟩
  else
    let rounding :=
      if biased = 0 then Rounding.of fraction (-1074) false
      else Rounding.of (hidden + fraction) ((biased : Int) - 1075) (fraction == 0 && biased != 1)
    some { rounding.shortest with negative := negative }

end SearchQuery.Decimal

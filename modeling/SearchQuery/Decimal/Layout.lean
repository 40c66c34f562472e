import SearchQuery.Decimal.Basic

/-! How a decimal is laid out as text: positionally within a range of magnitudes, otherwise as one
digit, a fraction and a power of ten. -/
namespace SearchQuery.Decimal

/-- The least and greatest leading exponent written positionally, and what follows the digits of a
whole number there. -/
structure Layout where
  leastPlain : Int
  greatestPlain : Int
  whole : String

def digitText (n : Nat) : String := String.ofList (Nat.toDigits 10 n)

def zeros (n : Nat) : String := String.ofList (List.replicate n '0')

/-- The digits with a point after the first `n` of them, and no point after the last. -/
def pointAfter (n : Nat) (digits : List Char) : String :=
  let fraction := digits.drop n
  String.ofList (digits.take n) ++ if fraction = [] then "" else "." ++ String.ofList fraction

def Layout.plain (layout : Layout) (d : Decimal) : String :=
  let digits := Nat.toDigits 10 d.digits
  if 0 ≤ d.exponent then String.ofList digits ++ zeros d.exponent.toNat ++ layout.whole
  else
    let places := (-d.exponent).toNat
    if places < digits.length then pointAfter (digits.length - places) digits
    else "0." ++ zeros (places - digits.length) ++ String.ofList digits

def scientific (d : Decimal) (leading : Int) : String :=
  let sign := if leading < 0 then "-" else "+"
  pointAfter 1 (Nat.toDigits 10 d.digits) ++ "e" ++ sign ++ digitText leading.natAbs

def Layout.render (layout : Layout) (d : Decimal) : String :=
  let leading := d.exponent + digitCount d.digits - 1
  let size :=
    if layout.leastPlain ≤ leading ∧ leading ≤ layout.greatestPlain then layout.plain d
    else scientific d leading
  (if d.negative then "-" else "") ++ size

end SearchQuery.Decimal

/-! Numbers in text: digits of a base to the value they stand for, and the words of 64 bits in which
such a value has to fit. -/
namespace SearchQuery.Text

/-- The value of a hexadecimal digit, and so of one of any smaller base. -/
def digitValue? (c : Char) : Option Nat :=
  if '0' ≤ c ∧ c ≤ '9' then some (c.toNat - '0'.toNat)
  else if 'a' ≤ c ∧ c ≤ 'f' then some (c.toNat - 'a'.toNat + 10)
  else if 'A' ≤ c ∧ c ≤ 'F' then some (c.toNat - 'A'.toNat + 10)
  else none

def isDigitOf (base : Nat) (c : Char) : Bool := (digitValue? c).any (· < base)

def isDigit (c : Char) : Bool := isDigitOf 10 c

/-- Characters that are no digits count as zeros. -/
def valueOf (base : Nat) (digits : List Char) : Nat :=
  digits.foldl (fun n c => n * base + (digitValue? c).getD 0) 0

/-- The character of a code point, if there is one. -/
def charOf? (code : Nat) : Option Char :=
  if code.isValidChar then some (Char.ofNat code) else none

end SearchQuery.Text

/-! ### Whole numbers that fit in a word of 64 bits, with a sign or without -/

namespace SearchQuery.Word

def signedLeast : Int := -0x8000000000000000

def signedEnd : Nat := 0x8000000000000000

def unsignedEnd : Nat := 0x10000000000000000

def fitsSigned (n : Int) : Bool := signedLeast ≤ n && n < signedEnd

def fitsUnsigned (n : Nat) : Bool := n < unsignedEnd

/-- Signed words and words without a sign overlap, and a number may be either. -/
def fits (n : Int) : Bool := signedLeast ≤ n && n < unsignedEnd

end SearchQuery.Word

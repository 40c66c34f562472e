import SearchQuery.Json.Basic
import SearchQuery.Text.Digits

/-! Counts in replies. Engines write them as numbers, as texts, or as objects with a value. -/
namespace SearchQuery.Reply

/-- Digits, with one plus sign allowed before them, of a number below 2^64. -/
def countOfText? (text : String) : Option Nat :=
  let digits :=
    match text.toList with
    | '+' :: rest => rest
    | cs => cs
  if !digits.isEmpty && digits.all Text.isDigit then
    let n := Text.valueOf 10 digits
    if Word.fitsUnsigned n then some n else none
  else none

/-- A double counts without its fraction, up to 2^64 - 1; nothing counts below zero. -/
def countOfNumber? : Number → Option Nat
  | .int n => if n < 0 then none else some n.toNat
  | .float x => if 0.0 ≤ x then some x.toUInt64.toNat else none

mutual

def count? : Json → Option Nat
  | .num n => countOfNumber? n
  | .str text => countOfText? text
  | .obj members => countIn? members
  | _ => none

/-- The count under the key value. -/
def countIn? : List (String × Json) → Option Nat
  | [] => none
  | (key, json) :: rest => if key = "value" then count? json else countIn? rest

end

end SearchQuery.Reply

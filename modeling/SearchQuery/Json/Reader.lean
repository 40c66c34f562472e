import SearchQuery.Json.Basic
import SearchQuery.Text.Scan
import SearchQuery.Text.Digits
import SearchQuery.Decimal.Basic

/-! JSON text to values. A member written twice keeps its first place and its last value. -/
namespace SearchQuery.Json

open Scan

def blanks : Scan Unit := discard (run fun c => c == ' ' || c == '\t' || c == '\n' || c == '\r')

/-- A reader and the blanks after it. -/
def lexeme {α : Type} (scan : Scan α) : Scan α := do
  let a ← scan
  blanks
  return a

def hex4 : Scan Nat := do
  let a ← one (Text.isDigitOf 16)
  let b ← one (Text.isDigitOf 16)
  let c ← one (Text.isDigitOf 16)
  let d ← one (Text.isDigitOf 16)
  return Text.valueOf 16 [a, b, c, d]

/-- A code point beyond the sixteen bits of an escape takes two, a high and a low half. -/
def unicodeEscape : Scan Char := do
  let high ← hex4
  if 0xD800 ≤ high ∧ high < 0xDC00 then
    text "\\u"
    let low ← hex4
    if 0xDC00 ≤ low ∧ low < 0xE000 then
      return Char.ofNat (0x10000 + (high - 0xD800) * 0x400 + (low - 0xDC00))
    else failure
  else StateT.lift (Text.charOf? high)

def escape : Scan Char := do
  match ← next with
  | '"' => return '"'
  | '\\' => return '\\'
  | '/' => return '/'
  | 'b' => return '\x08'
  | 'f' => return '\x0c'
  | 'n' => return '\n'
  | 'r' => return '\r'
  | 't' => return '\t'
  | 'u' => unicodeEscape
  | _ => failure

def stringChar : Scan Char := do
  let c ← one fun c => c != '"' && 32 ≤ c.toNat
  if c == '\\' then escape else return c

def string : Scan String := do
  char '"'
  let cs ← many stringChar
  char '"'
  return String.ofList cs

/-- Whole numbers of 64 bits, signed or not, are exact; all others are doubles, and so is minus
zero. A number too large for a double is refused. -/
def number : Scan Number := do
  let negative ← found "-"
  let whole ← word "0" ['0'] <|> run1 Text.isDigit
  let fraction ← option (do char '.'; run1 Text.isDigit)
  let exponent ← option do
    discard (one fun c => c == 'e' || c == 'E')
    let down ← found "-"
    if !down then discard (found "+")
    let size := Text.valueOf 10 (← run1 Text.isDigit)
    return if down then -(size : Int) else size
  let value := Text.valueOf 10 whole
  let signed : Int := if negative then -value else value
  let exact := fraction.isNone && exponent.isNone && !(negative && value == 0)
  if exact && Word.fits signed then return .int signed
  let places := fraction.getD []
  let double := Decimal.toFloat
    ⟨negative, Text.valueOf 10 (whole ++ places), exponent.getD 0 - places.length⟩
  if double.isFinite then return .float double else failure

/-- A value nested at most as deep as the number says. -/
def value : Nat → List Char → Option (Json × List Char)
  | 0, _ => none
  | depth + 1, cs =>
    let member : Scan (String × Json) := do
      let key ← lexeme string
      lexeme (char ':')
      let item ← lexeme (value depth)
      return (key, item)
    let reader : Scan Json := do
      match ← peek? with
      | some '[' =>
        lexeme (char '[')
        let items ← sepBy (lexeme (value depth)) (lexeme (char ','))
        char ']'
        return .arr items
      | some '\x7b' =>
        lexeme (char '\x7b')
        let members ← sepBy member (lexeme (char ','))
        char '\x7d'
        return .obj (Entries.insertAll [] members)
      | some '"' => .str <$> string
      | some 'n' => word "null" .null
      | some 't' => word "true" (.bool true)
      | some 'f' => word "false" (.bool false)
      | _ => .num <$> number
    reader cs

/-- No text nests deeper than it is long. -/
def parse? (s : String) : Option Json :=
  Scan.all? (do blanks; lexeme (value (s.length + 1))) s

end SearchQuery.Json

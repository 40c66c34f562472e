import SearchQuery.Decimal.Basic
import SearchQuery.Text.Digits
import SearchQuery.Text.Scan

/-! TOML values, and the reading of those without parts: strings, numbers and dates. -/
namespace SearchQuery

inductive Toml where
  | str (text : String)
  | int (value : Int)
  | float (value : Float)
  | bool (value : Bool)
  | datetime (text : String)
  | arr (items : List Toml)
  | table (entries : List (String × Toml))

end SearchQuery

namespace SearchQuery.Toml.Scalar

open Scan

/-! ### Blanks and line ends -/

def isBlank (c : Char) : Bool := c == ' ' || c == '\t'

def blanks : Scan Unit := discard (run isBlank)

def newline : Scan Unit := text "\n" <|> text "\r\n"

/-- Neither a control character, other than a tab, nor the end of a line. -/
def isPlain (c : Char) : Bool := c == '\t' || (32 ≤ c.toNat && c != '\x7f')

def comment : Scan Unit := do
  char '#'
  discard (run isPlain)

/-- Blanks, comments and line ends, as between the items of an array. -/
def gap : Scan Unit :=
  discard (many (discard (run1 isBlank) <|> newline <|> (do comment; newline)))

/-! ### Strings -/

def hexEscape (length : Nat) : Scan Char := do
  let digits ← (List.replicate length (one (Text.isDigitOf 16))).mapM id
  StateT.lift (Text.charOf? (Text.valueOf 16 digits))

def escape : Scan Char := do
  char '\\'
  match ← next with
  | 'b' => return '\x08'
  | 't' => return '\t'
  | 'n' => return '\n'
  | 'f' => return '\x0c'
  | 'r' => return '\r'
  | '"' => return '"'
  | '\\' => return '\\'
  | 'u' => hexEscape 4
  | 'U' => hexEscape 8
  | _ => failure

def basicString : Scan String := do
  char '"'
  let cs ← many (one (fun c => isPlain c && c != '"' && c != '\\') <|> escape)
  char '"'
  return String.ofList cs

def literalString : Scan String := do
  char '\''
  let cs ← run fun c => isPlain c && c != '\''
  char '\''
  return String.ofList cs

/-- A backslash at the end of a line takes the blanks and lines after it away. -/
def lineJoin : Scan (List Char) := do
  char '\\'
  blanks
  newline
  discard (many (discard (run1 isBlank) <|> newline))
  return []

/-- One or two quotes that the text does not end with. -/
def innerQuotes (quote : Char) : Scan (List Char) := fun cs =>
  let (quotes, rest) := cs.span (· == quote)
  if quotes.isEmpty || 3 ≤ quotes.length then none else some (quotes, rest)

/-- Three quotes end the text, and up to two before them belong to it. -/
def closingQuotes (quote : Char) : Scan (List Char) := fun cs =>
  let (quotes, rest) := cs.span (· == quote)
  if 3 ≤ quotes.length && quotes.length ≤ 5 then some (quotes.drop 3, rest) else none

/-- A text over lines, from its parts between three quotes. A line end right after the opening
quotes does not count, and every other one is a line feed. -/
def linesString (quote : Char) (part : Scan (List Char)) : Scan String := do
  text (String.ofList [quote, quote, quote])
  discard (option newline)
  let lineFeed : Scan (List Char) := do
    newline
    return ['\n']
  let parts ← many (lineFeed <|> part <|> innerQuotes quote)
  let last ← closingQuotes quote
  return String.ofList (parts.flatten ++ last)

def basicLines : Scan String :=
  linesString '"' (run1 (fun c => isPlain c && c != '"' && c != '\\') <|>
    lineJoin <|> (do return [← escape]))

def literalLines : Scan String := linesString '\'' (run1 fun c => isPlain c && c != '\'')

/-- Three quotes open a text over lines, whatever follows. -/
def string : Scan String := do
  match ← get with
  | '"' :: '"' :: '"' :: _ => basicLines
  | '\'' :: '\'' :: '\'' :: _ => literalLines
  | '"' :: _ => basicString
  | _ => literalString

/-! ### Numbers -/

/-- Digits of a base, with single underscores between them. -/
def digits (base : Nat) : Scan (List Char) := do
  let first ← one (Text.isDigitOf base)
  let rest ← many ((do char '_'; one (Text.isDigitOf base)) <|> one (Text.isDigitOf base))
  return first :: rest

/-- A plus or a minus, or neither; whether it is a minus. -/
def sign : Scan Bool := (word "-" true) <|> (word "+" false) <|> pure false

/-- A decimal number does not start with a zero, unless that is all. -/
def whole : Scan (List Char) := do
  match ← peek? with
  | some '0' => word "0" ['0']
  | _ => digits 10

def float : Scan Float := do
  let negative ← sign
  (word "inf" (if negative then -1.0 / 0.0 else 1.0 / 0.0)) <|> (word "nan" (0.0 / 0.0)) <|> do
    let units ← whole
    let fraction ← option (do char '.'; digits 10)
    let exponent ← option do
      discard (one fun c => c == 'e' || c == 'E')
      let down ← sign
      let size := Text.valueOf 10 (← digits 10)
      return if down then -(size : Int) else size
    if fraction.isNone && exponent.isNone then failure
    let places := fraction.getD []
    let value := Decimal.toFloat
      ⟨negative, Text.valueOf 10 (units ++ places), exponent.getD 0 - places.length⟩
    if value == 1.0 / 0.0 then failure else return value

/-- Numbers of 64 bits with a sign. Only a decimal number has its sign written. -/
def integer : Scan Int := do
  let value : Int ←
    (do text "0x"; return Text.valueOf 16 (← digits 16)) <|>
    (do text "0o"; return Text.valueOf 8 (← digits 8)) <|>
    (do text "0b"; return Text.valueOf 2 (← digits 2)) <|> do
      let negative ← sign
      let size := Text.valueOf 10 (← whole)
      return if negative then -(size : Int) else size
  if Word.fitsSigned value then return value else failure

/-! ### Dates and times -/

/-- A number of so many digits within limits. -/
def field (length low high : Nat) : Scan Nat := do
  let digits ← (List.replicate length (one Text.isDigit)).mapM id
  let value := Text.valueOf 10 digits
  if low ≤ value && value ≤ high then return value else failure

def daysIn (year month : Nat) : Nat :=
  if month = 2 then
    if year % 4 = 0 ∧ (year % 100 ≠ 0 ∨ year % 400 = 0) then 29 else 28
  else if month ∈ [4, 6, 9, 11] then 30
  else 31

def date : Scan Unit := do
  let year ← field 4 0 9999
  char '-'
  let month ← field 2 1 12
  char '-'
  discard (field 2 1 (daysIn year month))

def time : Scan Unit := do
  discard (field 2 0 23)
  char ':'
  discard (field 2 0 59)
  char ':'
  discard (field 2 0 60)
  discard (option (do char '.'; run1 Text.isDigit))

def zone : Scan Unit :=
  discard (one fun c => c == 'Z' || c == 'z') <|> do
    discard (one fun c => c == '+' || c == '-')
    discard (field 2 0 23)
    char ':'
    discard (field 2 0 59)

/-- A date, a date and a time, or a time, as it is written. -/
def datetime : Scan String := do
  let before ← get
  let afterDate : Scan Unit := do
    discard (one fun c => c == 'T' || c == 't' || c == ' ')
    time
    discard (option zone)
  (do date; discard (option afterDate)) <|> time
  let after ← get
  return String.ofList (before.take (before.length - after.length))

/-- Any value that is not made of others. -/
def scalar : Scan Toml := do
  match ← peek? with
  | some '"' | some '\'' => return .str (← string)
  | some 't' => word "true" (.bool true)
  | some 'f' => word "false" (.bool false)
  | _ => (Toml.datetime <$> datetime) <|> (Toml.float <$> float) <|> (Toml.int <$> integer)

end SearchQuery.Toml.Scalar

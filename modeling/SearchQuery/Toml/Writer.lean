import SearchQuery.Text.Digits

/-! TOML strings as text. Of the four ways to quote, the first is taken that needs no escapes: on
one line in double or in single quotes, then over lines in three double or three single quotes. If
none is free of escapes, the text is escaped in double quotes, over lines if it has any. -/
namespace SearchQuery.Toml

inductive Quotes where
  | basic
  | literal
  | basicLines
  | literalLines
  deriving DecidableEq, Repr

def longestRunFrom (c : Char) (current : Nat) : List Char → Nat
  | [] => current
  | d :: rest =>
    if d = c then longestRunFrom c (current + 1) rest
    else max current (longestRunFrom c 0 rest)

/-- The length of the longest run of a character. -/
def longestRun (c : Char) (cs : List Char) : Nat := longestRunFrom c 0 cs

/-- A control character that has to be escaped wherever it stands. -/
def isControl (c : Char) : Bool := (c.toNat < 32 && c != '\t' && c != '\n') || c == '\x7f'

def quotesFor (cs : List Char) : Quotes :=
  let control := cs.any isControl
  let backslash := cs.contains '\\'
  let lines := cs.contains '\n'
  let doubles := longestRun '"' cs
  let singles := longestRun '\'' cs
  if !control && !backslash && doubles == 0 && !lines then .basic
  else if !control && singles == 0 && !lines then .literal
  else if !control && !backslash && doubles ≤ 2 then .basicLines
  else if !control && singles ≤ 2 then .literalLines
  else if lines then .basicLines
  else .basic

def codeEscape (c : Char) : String :=
  let digits := Nat.toDigits 16 c.toNat
  let padding := List.replicate (4 - digits.length) '0'
  "\\u" ++ String.ofList (padding ++ digits.map Char.toUpper)

def escapeChar (lines : Bool) (c : Char) : String :=
  match c with
  | '\x08' => "\\b"
  | '\t' => "\\t"
  | '\n' => if lines then "\n" else "\\n"
  | '\x0c' => "\\f"
  | '\r' => "\\r"
  | '\\' => "\\\\"
  | c => if isControl c then codeEscape c else c.toString

/-- The characters between double quotes. Up to two double quotes in a row stand for themselves in a
text over lines, and none does otherwise; `seen` counts those just before. -/
def escapeFrom (lines : Bool) (seen : Nat) : List Char → String
  | [] => ""
  | c :: rest =>
    if c = '"' then
      if seen < (if lines then 2 else 0) then "\"" ++ escapeFrom lines (seen + 1) rest
      else "\\\"" ++ escapeFrom lines 0 rest
    else escapeChar lines c ++ escapeFrom lines 0 rest

/-- A text over lines starts on a line of its own if it has more than one. -/
def quoted (s : String) : String :=
  let cs := s.toList
  let start := if cs.contains '\n' then "\n" else ""
  match quotesFor cs with
  | .basic => "\"" ++ escapeFrom false 0 cs ++ "\""
  | .literal => "'" ++ s ++ "'"
  | .basicLines => "\"\"\"" ++ start ++ escapeFrom true 0 cs ++ "\"\"\""
  | .literalLines => "'''" ++ start ++ s ++ "'''"

end SearchQuery.Toml

/-! Readers of text. A reader takes what it reads from the front of the characters and leaves the
rest, or fails and takes nothing. -/
namespace SearchQuery

abbrev Scan := StateT (List Char) Option

namespace Scan

variable {α β : Type}

def peek? : Scan (Option Char) := fun cs => some (cs.head?, cs)

def next : Scan Char
  | [] => none
  | c :: rest => some (c, rest)

/-- The next character, which has to be one of a kind. -/
def one (p : Char → Bool) : Scan Char
  | [] => none
  | c :: rest => if p c then some (c, rest) else none

def char (c : Char) : Scan Unit := do discard (one (· == c))

def text (s : String) : Scan Unit := s.toList.forM char

/-- As many characters of a kind as there are. -/
def run (p : Char → Bool) : Scan (List Char) := fun cs => some (cs.span p)

def run1 (p : Char → Bool) : Scan (List Char) := do
  let c ← one p
  let rest ← run p
  return c :: rest

/-- A text that stands for a value. -/
def word (s : String) (a : α) : Scan α := do
  text s
  return a

def option (scan : Scan α) : Scan (Option α) := (some <$> scan) <|> pure none

/-- Whether a text comes next; it is taken if so. -/
def found (s : String) : Scan Bool := do
  return (← option (text s)).isSome

/-- What a reader takes again and again until it fails, at most as often as the first list is
long. -/
def manyWithin (scan : Scan α) : List Char → List Char → List α × List Char
  | [], cs => ([], cs)
  | _ :: bound, cs =>
    match scan cs with
    | none => ([], cs)
    | some (a, rest) =>
      let (as, rest) := manyWithin scan bound rest
      (a :: as, rest)

/-- A reader again and again until it fails. It has to take something each time, so it succeeds no
more often than there are characters. -/
def many (scan : Scan α) : Scan (List α) := fun cs => some (manyWithin scan cs cs)

/-- One or more, with separators between. -/
def sepBy1 (scan : Scan α) (separator : Scan β) : Scan (List α) := do
  let first ← scan
  let rest ← many (do discard separator; scan)
  return first :: rest

def sepBy (scan : Scan α) (separator : Scan β) : Scan (List α) :=
  sepBy1 scan separator <|> pure []

def finish : Scan Unit
  | [] => some ((), [])
  | _ => none

/-- What a reader makes of a whole text. -/
def all? (scan : Scan α) (s : String) : Option α :=
  ((do let a ← scan; finish; return a : Scan α) s.toList).map (·.1)

end Scan

end SearchQuery

import SearchQuery.Text.Quoted

/-! What a condition asks of its subject. -/
namespace SearchQuery

/-- A bound of a range. -/
inductive Bound where
  | gt
  | gte
  | lt
  | lte
  deriving DecidableEq, Repr

def Bound.name : Bound → String
  | .gt => "gt"
  | .gte => "gte"
  | .lt => "lt"
  | .lte => "lte"

/-- Equality with a value or membership in a list, full-text search, a range, and whether there is a
value at all. A nested operator goes with a nested set of conditions, and an operator that is not
known is kept as it was written. -/
inductive Operator where
  | term
  | terms
  | fullText
  | range (bound : Bound)
  | present
  | absent
  | nested
  | other (text : String)
  deriving DecidableEq, Repr

namespace Operator

/-- The text has neither blanks around it nor capitals. -/
def ofText (text : String) : Operator :=
  match text with
  | "=" | "term" => .term
  | "in" | "terms" => .terms
  | "like" | "match" | "multi_match" | "matchs" | "multimatch" => .fullText
  | ">" | "gt" => .range .gt
  | ">=" | "gte" => .range .gte
  | "<" | "lt" => .range .lt
  | "<=" | "lte" => .range .lte
  | "exists" | "exist" => .present
  | "miss" | "missing" => .absent
  | _ => .other text

/-- The name of a known operator, and the text of any other. -/
def text : Operator → String
  | .term => "term"
  | .terms => "terms"
  | .fullText => "match"
  | .range bound => bound.name
  | .present => "exists"
  | .absent => "missing"
  | .nested => "sub"
  | .other text => text

/-- As `text`, but an operator that is not known is quoted. -/
def label : Operator → String
  | .other text => Text.quote text
  | operator => operator.text

end Operator

end SearchQuery

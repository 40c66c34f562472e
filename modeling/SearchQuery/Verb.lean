import SearchQuery.Occur

/-! The verbs that add conditions. Each has an occurrence and an operator for calls that name
none. -/
namespace SearchQuery

inductive Verb where
  | whereIs
  | whereIn
  | filter
  | filterIn
  | orWhere
  | orFilter
  | whereNotIn
  | filterNotIn
  | present
  | absent
  deriving DecidableEq, Repr

namespace Verb

def name : Verb → String
  | .whereIs => "where"
  | .whereIn => "whereIn"
  | .filter => "filter"
  | .filterIn => "filterIn"
  | .orWhere => "orWhere"
  | .orFilter => "orFilter"
  | .whereNotIn => "whereNotIn"
  | .filterNotIn => "filterNotIn"
  | .present => "exists"
  | .absent => "missing"

/-- Names are read as they are written. -/
def ofName? (name : String) : Option Verb :=
  match name with
  | "where" => some .whereIs
  | "whereIn" => some .whereIn
  | "filter" => some .filter
  | "filterIn" => some .filterIn
  | "orWhere" => some .orWhere
  | "orFilter" => some .orFilter
  | "whereNotIn" => some .whereNotIn
  | "filterNotIn" => some .filterNotIn
  | "exists" | "exist" => some .present
  | "missing" | "miss" => some .absent
  | _ => none

def parse (name : String) : Except Error Verb :=
  match ofName? name with
  | some verb => .ok verb
  | none => .error (.unknownVerb name)

def occur : Verb → Occur
  | .whereIs | .whereIn | .present | .absent => .must
  | .filter | .filterIn => .filter
  | .orWhere | .orFilter => .should
  | .whereNotIn | .filterNotIn => .mustNot

/-- The text of the operator of a call that names none. -/
def operator : Verb → String
  | .whereNotIn | .filterNotIn => "in"
  | .present => "exists"
  | .absent => "missing"
  | _ => "="

end Verb

end SearchQuery

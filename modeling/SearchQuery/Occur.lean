import SearchQuery.Error
import SearchQuery.Text.Normal

/-! How a condition counts towards a match: it must hold, must not hold, should hold, or filters
without a say in the score. -/
namespace SearchQuery

inductive Occur where
  | must
  | mustNot
  | should
  | filter
  deriving DecidableEq, Repr

namespace Occur

def all : List Occur := [.must, .mustNot, .should, .filter]

/-- The key of the clauses in a query. -/
def name : Occur → String
  | .must => "must"
  | .mustNot => "must_not"
  | .should => "should"
  | .filter => "filter"

def ofName? (name : String) : Option Occur := all.find? (·.name == name)

/-- Names are read up to blanks around them and letter case, and must_not also without its
underscore. -/
def parse (text : String) : Except Error Occur :=
  match Text.normal text with
  | "must" => .ok .must
  | "must_not" | "mustnot" => .ok .mustNot
  | "should" => .ok .should
  | "filter" => .ok .filter
  | _ => .error (.unknownOccur text)

end Occur

end SearchQuery

import SearchQuery.Condition.Script
import SearchQuery.Request.Assembly

/-! A search under construction: its options, its conditions, and the defaults that it was started
with. -/
namespace SearchQuery

structure Defaults where
  docType : String
  direction : Direction
  mergeSource : Bool

structure Search where
  options : Options
  conditions : ConditionSet
  defaults : Defaults

/-- A change to the options. -/
inductive Edit where
  | index (name : String)
  | indexAndType (name docType : String)
  | docType (name : String)
  | id (id : String)
  | body (value : Json)
  | suppressBody
  | offset (offset : Nat)
  | size (size : Nat)
  | page (offset size : Nat)
  | source (fields : List String)
  | orderBy (field : String) (direction : Direction)
  | order (field : String)
  | collapse (field : String)
  | groupBy (field : String)

/-- A page from the first hit on. -/
def Edit.firstPage (size : Nat) : Edit := .page 0 size

namespace Search

def start (defaults : Defaults) : Search :=
  { options := { index := "", docType := defaults.docType }
    conditions := .empty
    defaults := defaults }

/-- The options after a change. A new index takes the default type unless a type comes with it, and
an empty type then leaves the current one. An empty identifier or field is none. -/
def edited (defaults : Defaults) (options : Options) : Edit → Options
  | .index name => { options with index := name, docType := defaults.docType }
  | .indexAndType name docType =>
    { options with
      index := name
      docType := if docType.isEmpty then options.docType else docType }
  | .docType name => { options with docType := name }
  | .id id => { options with id := nonEmpty? id }
  | .body value => { options with body := Body.ofValue? value }
  | .suppressBody => { options with body := some .suppressed }
  | .offset offset => { options with offset := offset }
  | .size size => { options with size := size }
  | .page offset size => { options with offset := offset, size := size }
  | .source fields => { options with source := fields }
  | .orderBy field direction => { options with sort := options.sort ++ [⟨field, direction⟩] }
  | .order field => { options with sort := options.sort ++ [⟨field, defaults.direction⟩] }
  | .collapse field => { options with collapse := nonEmpty? field }
  | .groupBy field => { options with groupBy := nonEmpty? field }

def edit (search : Search) (change : Edit) : Search :=
  { search with options := edited search.defaults search.options change }

/-- The search with one more condition. -/
def step (search : Search) (step : Step) : Logged Remark (Except Error Search) := do
  return (← step.condition).map fun condition =>
    { search with conditions := search.conditions.push condition }

/-- The request to search as things stand. -/
def request (search : Search) : Logged Event (Except Error Request) :=
  search.options.request search.conditions

end Search

end SearchQuery

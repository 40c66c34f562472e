import SearchQuery.Event

/-! The clause of one condition in the search engine's query language. A condition without a usable
field or value has none; a positive boost is written into the clause. -/
namespace SearchQuery

/-- The clause that every document matches. -/
def matchAll : Json := .single "match_all" (.obj [])

namespace Condition

/-- The boost, when it is one. -/
def boost? (c : Condition) : Option Float := if 0.0 < c.boost then some c.boost else none

/-- The one field that the condition is about. -/
def field? (c : Condition) : Option String :=
  match c.subject with
  | .field name => if name.isEmpty then none else some name
  | _ => none

/-- The boost as the last member of a clause. -/
def boostMember (c : Condition) : List (String × Json) :=
  c.boost?.toList.map fun boost => ("boost", .ofFloat boost)

/-- The value itself, or under a key beside the boost. -/
def boostedValue (c : Condition) (key : String) : Json :=
  if c.boost?.isSome then .obj ((key, c.value) :: c.boostMember) else c.value

/-- A clause about the value of one field. -/
def fieldClause? (c : Condition) (kind : String) (inner : Json) : Option Json :=
  if c.value.isEmpty then none
  else c.field?.map fun field => .single kind (.single field inner)

/-- Full-text search in one field or in several. -/
def fullTextClause? (c : Condition) : Option Json :=
  match c.subject with
  | .fields names =>
    if names.isEmpty || c.value.isEmpty then none
    else
      some (.single "multi_match"
        (.obj ([("query", c.value), ("fields", .ofStrings names)] ++ c.boostMember)))
  | _ => c.fieldClause? "match" (c.boostedValue "query")

/-- Whether a field has a value; the condition needs none of its own. -/
def presenceClause? (c : Condition) (kind : String) : Option Json :=
  c.field?.map fun field => .single kind (.obj (("field", .str field) :: c.boostMember))

def clause? (c : Condition) : Option Json :=
  match c.operator with
  | .term => c.fieldClause? (if c.value.isArray then "terms" else "term") (c.boostedValue "value")
  | .terms => c.fieldClause? "terms" (c.boostedValue "value")
  | .fullText => c.fullTextClause?
  | .range bound => c.fieldClause? "range" (.obj ((bound.name, c.value) :: c.boostMember))
  | .present => c.presenceClause? "exists"
  | .absent => c.presenceClause? "missing"
  | .nested => none
  | .other _ => some matchAll

/-- As `clause?`, with a warning for an operator that is not known. -/
def translate (c : Condition) : Logged Event (Option Json) := do
  match c.operator with
  | .other text => Logged.note (.unrecognized text c.occur)
  | _ => pure ()
  return c.clause?

end Condition

end SearchQuery

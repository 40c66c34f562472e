import SearchQuery.Condition.Clause

/-! The query of a set of conditions. Clauses are collected under their occurrences, in an object
called a bucket map here; a bucket map that stands for one clause among others is wrapped under
bool. -/
namespace SearchQuery

/-- Whether a clause is a bucket map that is not wrapped. -/
def Json.isBuckets (clause : Json) : Bool :=
  Occur.all.any fun occur => (clause.get? occur.name).isSome

def wrap (clause : Json) : Json := .single "bool" clause

def wrapBuckets (clause : Json) : Json := if clause.isBuckets then wrap clause else clause

/-- What an occurrence holds: a list of clauses, but a bucket map alone under filter is no list. -/
def bucket (occur : Occur) (clauses : List Json) : Json :=
  match occur, clauses with
  | .filter, [clause] => if clause.isBuckets then wrap clause else .arr [clause]
  | _, _ => .arr (clauses.map wrapBuckets)

/-- Nothing at all matches everything, and several buckets are wrapped at once. -/
def joinBuckets (members : List (String × Json)) : Json :=
  match members with
  | [] => matchAll
  | [member] => .obj [member]
  | members => wrap (.obj members)

/-- A clause on its own, noting a condition that has none. -/
def Condition.leaf (c : Condition) : Logged Event (Option Json) := do
  let clause ← c.translate
  if clause.isNone then Logged.note (.suppressed c.operator c.subject)
  return clause

mutual

def Condition.compile : Condition → Logged Event (Option Json)
  | ⟨_, .nested conditions, .nested, _, _⟩ => do return some (← conditions.tree)
  | c => c.leaf

/-- The clauses of a set as one clause. -/
def ConditionSet.tree : ConditionSet → Logged Event Json
  | ⟨groups⟩ => do return joinBuckets (← compileGroups groups [])

/-- Writes the occurrences that have a clause left into an object. -/
def compileGroups :
    List (Occur × List Condition) → Entries Json → Logged Event (Entries Json)
  | [], members => pure members
  | (occur, conditions) :: rest, members => do
    let clauses ← compileAll conditions
    compileGroups rest
      (if clauses.isEmpty then members else members.insert occur.name (bucket occur clauses))

def compileAll : List Condition → Logged Event (List Json)
  | [] => pure []
  | c :: rest => do
    let clause ← c.compile
    let clauses ← compileAll rest
    return clause.toList ++ clauses

end

/-- A query is always wrapped under bool. -/
def asQuery (tree : Json) : Json :=
  if (tree.get? "bool").isSome then tree
  else if tree.isBuckets then wrap tree
  else wrap (.single "must" (.arr [tree]))

def ConditionSet.query (set : ConditionSet) : Logged Event Json := do return asQuery (← set.tree)

end SearchQuery

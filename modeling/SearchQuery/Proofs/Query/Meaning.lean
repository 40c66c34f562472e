import SearchQuery.Proofs.Query.Reading

/-! What a query means. Given the truth of the clauses of single conditions, a bool object is true
in the filter sense: what must hold and what filters does, nothing that must not hold does, and
should alone asks for one clause. Main statement: `holds_query`, compiling keeps the meaning of a set. -/
namespace SearchQuery

/-- The truth of the clauses of single conditions. The clause that every document matches is
true. -/
structure Assignment where
  holds : Json → Bool
  holds_matchAll : holds matchAll = true

/-- The buckets of a bool object, each with the truth of its clauses. -/
def boolRule (buckets : Entries (List Bool)) : Bool :=
  let truths (o : Occur) : List Bool := (buckets.get? o.name).getD []
  let has (o : Occur) : Bool := (buckets.get? o.name).isSome
  (truths .must).all id && (truths .filter).all id && (truths .mustNot).all not &&
    (if has .should && !has .must && !has .filter then (truths .should).any id else true)

/-- The truth of a query or of a clause in it. -/
def Json.holds (a : Assignment) : Json → Bool := read a.holds boolRule

/-! ### The meaning of a set -/

mutual

/-- The truth of a condition, unless it has no clause. -/
def Condition.holds? (a : Assignment) : Condition → Option Bool
  | ⟨_, .nested conditions, .nested, _, _⟩ => some (conditions.holds a)
  | c => c.clause?.map a.holds

/-- A set is true by the rule for the occurrences that have a condition left, or if none has. -/
def ConditionSet.holds (a : Assignment) : ConditionSet → Bool
  | ⟨groups⟩ =>
    match holdsGroups a groups with
    | [] => true
    | buckets => boolRule buckets

def holdsGroups (a : Assignment) : List (Occur × List Condition) → Entries (List Bool)
  | [] => []
  | (occur, conditions) :: rest =>
    match holdsEach a conditions with
    | [] => holdsGroups a rest
    | truths => (occur.name, truths) :: holdsGroups a rest

def holdsEach (a : Assignment) : List Condition → List Bool
  | [] => []
  | c :: rest => (c.holds? a).toList ++ holdsEach a rest

end

variable (a : Assignment)

theorem Condition.holds?_eq (c : Condition) :
    c.holds? a = c.readWith a.holds (ConditionSet.holds a) := by
  unfold holds? readWith
  split
  · rfl
  · next hne => rw [child?_eq_none hne]

theorem holdsEach_eq (conditions : List Condition) :
    holdsEach a conditions = conditions.filterMap (Condition.holds? a) := by
  induction conditions with
  | nil => rfl
  | cons c rest ih =>
    rw [holdsEach, ih, List.filterMap_cons]
    cases c.holds? a <;> rfl

theorem holdsGroups_eq (groups : List (Occur × List Condition)) :
    holdsGroups a groups = readGroups (Condition.holds? a) groups := by
  induction groups with
  | nil => rfl
  | cons group rest ih =>
    obtain ⟨occur, conditions⟩ := group
    rw [holdsGroups, holdsEach_eq, ih, readGroups, readGroups, List.filterMap_cons]
    cases conditions.filterMap (Condition.holds? a) <;> rfl

theorem isReading_holds : IsReading a.holds boolRule (ConditionSet.holds a) := by
  intro set
  obtain ⟨groups⟩ := set
  rw [ConditionSet.holds, holdsGroups_eq, funext (Condition.holds?_eq a)]
  cases readGroups (Condition.readWith a.holds (ConditionSet.holds a)) groups with
  | nil => exact a.holds_matchAll.symm
  | cons bucket rest => rfl

/-- A compiled query is true exactly when its set is, however deep the set is nested. -/
theorem ConditionSet.holds_query {set : ConditionSet} (h : set.Reachable) :
    set.query.value.holds a = set.holds a := by
  refine read_query (isReading_holds a) ?_ h
  rw [a.holds_matchAll]
  rfl

/-- Every clause but a range is true. -/
def Assignment.noRange : Assignment where
  holds clause := (clause.get? "range").isNone
  holds_matchAll := rfl

theorem ConditionSet.holds_query_romans :
    romans.Reachable ∧ romans.query.value.holds .noRange = romans.holds .noRange ∧
      romans.holds .noRange = false :=
  ⟨reachable_romans, holds_query .noRange reachable_romans, by decide +kernel⟩

end SearchQuery

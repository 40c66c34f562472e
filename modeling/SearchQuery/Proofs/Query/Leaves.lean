import SearchQuery.Proofs.Query.Reading

/-! The clauses of single conditions, from left to right. Main statement: `leafClauses_query`, a
compiled query holds those of its set, each once and in order. -/
namespace SearchQuery

/-- What stands in the buckets, one bucket after the other. -/
def inBuckets (buckets : List (String × List (List Json))) : List Json :=
  buckets.flatMap fun bucket => bucket.2.flatten

/-- The clauses of a query that are not bool objects, members in their order. -/
def Json.leafClauses : Json → List Json := read (fun clause => [clause]) inBuckets

/-! ### The leaves of a set -/

mutual

/-- A condition contributes its clause, if it has one. A nested one contributes the leaves of its
set, or the clause that every document matches where there are none. -/
def Condition.leaves : Condition → List Json
  | ⟨_, .nested conditions, .nested, _, _⟩ =>
    if conditions.leaves.isEmpty then [matchAll] else conditions.leaves
  | c => c.clause?.toList

/-- The leaves of the conditions, in the order in which the occurrences were first used and then in
the order in which the conditions were added. -/
def ConditionSet.leaves : ConditionSet → List Json
  | ⟨groups⟩ => leavesOfGroups groups

def leavesOfGroups : List (Occur × List Condition) → List Json
  | [] => []
  | (_, conditions) :: rest => leavesOfAll conditions ++ leavesOfGroups rest

def leavesOfAll : List Condition → List Json
  | [] => []
  | c :: rest => c.leaves ++ leavesOfAll rest

end

/-- The leaves of a set as a nested condition contributes them. -/
def ConditionSet.leavesOrAll (set : ConditionSet) : List Json :=
  if set.leaves.isEmpty then [matchAll] else set.leaves

/-- The leaves of a condition, unless it has no clause. -/
def Condition.leaves? (c : Condition) : Option (List Json) :=
  c.readWith (fun clause => [clause]) ConditionSet.leavesOrAll

namespace Condition

theorem leaves_eq (c : Condition) : c.leaves = c.leaves?.getD [] := by
  unfold leaves leaves? readWith
  split
  · rfl
  · next hne =>
    rw [child?_eq_none hne]
    cases c.clause? <;> rfl

theorem leaves?_ne_nil {c : Condition} {clauses : List Json} (h : c.leaves? = some clauses) :
    clauses ≠ [] := by
  unfold leaves? readWith at h
  split at h
  · next child _ =>
    cases h
    rw [ConditionSet.leavesOrAll]
    split
    · exact List.cons_ne_nil _ _
    · next he => exact fun hnil => he (List.isEmpty_iff.mpr hnil)
  · obtain ⟨clause, _, rfl⟩ := Option.map_eq_some_iff.mp h
    exact List.cons_ne_nil _ _

end Condition

theorem leavesOfAll_eq (conditions : List Condition) :
    leavesOfAll conditions = (conditions.filterMap Condition.leaves?).flatten := by
  induction conditions with
  | nil => rfl
  | cons c rest ih =>
    rw [leavesOfAll, ih, Condition.leaves_eq, List.filterMap_cons]
    cases c.leaves? <;> rfl

/-- An occurrence without a clause has no leaves to lose. -/
theorem leavesOfGroups_eq (groups : List (Occur × List Condition)) :
    leavesOfGroups groups = inBuckets (readGroups Condition.leaves? groups) := by
  induction groups with
  | nil => rfl
  | cons group rest ih =>
    obtain ⟨occur, conditions⟩ := group
    rw [leavesOfGroups, leavesOfAll_eq, ih, readGroups, readGroups, List.filterMap_cons]
    cases conditions.filterMap Condition.leaves? <;> rfl

/-- Whatever has a clause has a leaf, so without leaves there is no occurrence left. -/
theorem readGroups_leaves?_eq_nil {groups : List (Occur × List Condition)}
    (h : leavesOfGroups groups = []) : readGroups Condition.leaves? groups = [] := by
  rw [leavesOfGroups_eq, inBuckets, List.flatMap_eq_nil_iff] at h
  refine List.eq_nil_iff_forall_not_mem.mpr fun bucket hbucket => ?_
  obtain ⟨hne, hread⟩ := mem_readGroups hbucket
  obtain ⟨clauses, hclauses⟩ := List.exists_mem_of_ne_nil _ hne
  obtain ⟨c, hc⟩ := hread clauses hclauses
  have hnil : clauses = [] := List.flatten_eq_nil_iff.mp (h bucket hbucket) clauses hclauses
  exact Condition.leaves?_ne_nil hc hnil

theorem isReading_leaves :
    IsReading (fun clause => [clause]) inBuckets ConditionSet.leavesOrAll := by
  intro set
  obtain ⟨groups⟩ := set
  rw [ConditionSet.leavesOrAll, ConditionSet.leaves]
  change _ = joinReadings _ inBuckets (readGroups Condition.leaves? groups)
  cases hr : readGroups Condition.leaves? groups with
  | nil =>
    rw [leavesOfGroups_eq, hr]
    rfl
  | cons bucket rest =>
    have hne : leavesOfGroups groups ≠ [] := fun h => by
      rw [readGroups_leaves?_eq_nil h] at hr
      cases hr
    rw [List.isEmpty_eq_false_iff.mpr hne, leavesOfGroups_eq, hr]
    rfl

/-- No condition is lost, duplicated or moved: the leaves of a compiled query are those of its set,
or the clause that every document matches where the set has none. -/
theorem ConditionSet.leafClauses_query {set : ConditionSet} (h : set.Reachable) :
    set.query.value.leafClauses = if set.leaves.isEmpty then [matchAll] else set.leaves :=
  read_query isReading_leaves rfl h

theorem ConditionSet.leafClauses_query_romans :
    romans.Reachable ∧
      romans.query.value.leafClauses =
        (if romans.leaves.isEmpty then [matchAll] else romans.leaves) ∧
      romans.leaves.length = 3 :=
  ⟨reachable_romans, leafClauses_query reachable_romans, by decide +kernel⟩

end SearchQuery

import Mathlib.Data.List.Basic
import SearchQuery.Proofs.Query.Tree

/-! Readings of a query and of a set of conditions. A query is read bottom up: a bool object is read
as its buckets, and any other clause is a leaf. A set is read directly, a nested condition as the
set that it holds. Main statement: `read_query`, the reading of a compiled query is that of its set. -/
namespace SearchQuery

variable {β : Type} (leaf : Json → β) (node : List (String × List β) → β)

namespace Json

mutual

def read : Json → β
  | .obj [(key, .obj members)] =>
    if key = "bool" then node (readMembers members) else leaf (.obj [(key, .obj members)])
  | clause => leaf clause

/-- A bucket is a list of clauses or one clause by itself. -/
def readMembers : List (String × Json) → List (String × List β)
  | [] => []
  | (key, .arr clauses) :: rest => (key, readEach clauses) :: readMembers rest
  | (key, clause) :: rest => (key, [read clause]) :: readMembers rest

def readEach : List Json → List β
  | [] => []
  | clause :: rest => read clause :: readEach rest

end

/-- The clauses of a bucket. -/
def clauses : Json → List Json
  | .arr clauses => clauses
  | clause => [clause]

theorem readEach_eq_map (clauses : List Json) :
    readEach leaf node clauses = clauses.map (read leaf node) := by
  induction clauses with
  | nil => rfl
  | cons clause rest ih => rw [readEach, ih, List.map_cons]

theorem readMembers_eq_map (members : List (String × Json)) :
    readMembers leaf node members =
      members.map fun member => (member.1, member.2.clauses.map (read leaf node)) := by
  induction members with
  | nil => rfl
  | cons member rest ih =>
    obtain ⟨key, value⟩ := member
    cases value <;> simp only [readMembers, readEach_eq_map, ih, List.map_cons, clauses,
      List.map_nil]

theorem read_wrap (members : List (String × Json)) :
    read leaf node (wrap (.obj members)) = node (readMembers leaf node members) := by
  rw [wrap, single, read, if_pos rfl]

theorem read_single {key : String} (h : key ≠ "bool") (body : Json) :
    read leaf node (single key body) = leaf (single key body) := by
  cases body with
  | obj members => rw [single, read, if_neg h]
  | _ => rfl

end Json

/-- However a bucket is written, its clauses are those it was made of, bucket maps wrapped. -/
theorem clauses_bucket (occur : Occur) (clauses : List Json) :
    (bucket occur clauses).clauses = clauses.map wrapBuckets := by
  unfold bucket
  split
  · next clause =>
    cases h : clause.isBuckets <;> simp [Json.clauses, wrapBuckets, wrap, Json.single, h]
  · rfl

/-! ### Sets of conditions -/

/-- A reading of each occurrence that has a reading left, under its name. -/
def readGroups (read? : Condition → Option β) (groups : List (Occur × List Condition)) :
    List (String × List β) :=
  groups.filterMap fun group =>
    match group.2.filterMap read? with
    | [] => none
    | readings => some (group.1.name, readings)

/-- A condition reads as its clause, and a nested one as its set. -/
def Condition.readWith (reading : ConditionSet → β) (c : Condition) : Option β :=
  match c.child? with
  | some child => some (reading child)
  | none => c.clause?.map leaf

/-- Where no condition has a clause, everything matches. -/
def joinReadings : List (String × List β) → β
  | [] => leaf matchAll
  | readings => node readings

/-- A direct reading of sets. -/
def IsReading (reading : ConditionSet → β) : Prop :=
  ∀ set, reading set =
    joinReadings leaf node (readGroups (Condition.readWith leaf reading) set.groups)

variable {leaf node}

theorem readGroups_congr {f g : Condition → Option β} {groups : List (Occur × List Condition)}
    (h : ∀ c ∈ Groups.values groups, f c = g c) : readGroups f groups = readGroups g groups := by
  refine List.filterMap_congr fun group hgroup => ?_
  have hc : group.2.filterMap f = group.2.filterMap g :=
    List.filterMap_congr fun c hc => h c (List.mem_flatMap.mpr ⟨group, hgroup, hc⟩)
  rw [hc]

theorem mem_readGroups {read? : Condition → Option β} {groups : List (Occur × List Condition)}
    {bucket : String × List β} (h : bucket ∈ readGroups read? groups) :
    bucket.2 ≠ [] ∧ ∀ b ∈ bucket.2, ∃ c, read? c = some b := by
  obtain ⟨group, _, hb⟩ := List.mem_filterMap.mp h
  split at hb
  · cases hb
  · next hne =>
    cases hb
    refine ⟨hne, fun b hb => ?_⟩
    obtain ⟨c, _, hc⟩ := List.mem_filterMap.mp hb
    exact ⟨c, hc⟩

/-- The clause of a condition is a leaf and stays as it is among others. -/
theorem Condition.read_clause? {c : Condition} {clause : Json} (h : c.clause? = some clause) :
    (wrapBuckets clause).read leaf node = leaf clause := by
  obtain ⟨kind, hk, body, rfl⟩ := clause?_kind h
  have hbool : kind ≠ "bool" := fun he => absurd (he ▸ hk) (by decide)
  rw [wrapBuckets, isBuckets_of_kind hk]
  exact Json.read_single leaf node hbool body

/-- Compiled and then read, a condition is read directly. -/
theorem Condition.read_compile (c : Condition) :
    (c.compile.value.map fun clause => (wrapBuckets clause).read leaf node) =
      c.readWith leaf fun child => (wrapBuckets child.tree.value).read leaf node := by
  unfold readWith
  cases hc : c.child? with
  | some child => rw [compile_of_child hc, Option.map_some]
  | none =>
    rw [compile_of_leaf hc]
    exact Option.map_congr fun clause hclause => read_clause? hclause

theorem readMembers_members (set : ConditionSet) :
    Json.readMembers leaf node set.members =
      readGroups (fun c => c.compile.value.map fun clause => (wrapBuckets clause).read leaf node)
        set.groups := by
  rw [Json.readMembers_eq_map, ConditionSet.members, readGroups, List.map_filterMap]
  refine List.filterMap_congr fun group _ => ?_
  rw [← List.map_filterMap, ← clausesOf]
  cases hc : clausesOf group.2 with
  | nil => rfl
  | cons clause rest =>
    simp only [member?, List.isEmpty_cons, Bool.false_eq_true, if_false, Option.map_some,
      clauses_bucket, List.map_map]
    rfl

/-- The members of a set are read as its groups are, once its nested sets are. -/
theorem readMembers_of_nested {reading : ConditionSet → β} {set : ConditionSet}
    (h : ∀ child : ConditionSet, child.NestedIn set →
      (wrapBuckets child.tree.value).read leaf node = reading child) :
    Json.readMembers leaf node set.members =
      readGroups (Condition.readWith leaf reading) set.groups := by
  rw [readMembers_members]
  refine readGroups_congr fun c hc => ?_
  rw [Condition.read_compile, Condition.readWith, Condition.readWith]
  cases hchild : c.child? with
  | none => rfl
  | some child => exact congrArg some (h child ⟨c, hc, Condition.subject_of_child? hchild⟩)

theorem read_tree {reading : ConditionSet → β} (hr : IsReading leaf node reading)
    {set : ConditionSet} (h : set.Reachable) :
    (wrapBuckets set.tree.value).read leaf node = reading set := by
  refine h.induct_nested (P := fun set => (wrapBuckets set.tree.value).read leaf node = reading set)
    fun set hset ih => ?_
  rw [tree_value hset.nodup_keys, wrapBuckets_joinBuckets set.namedByOccur_members, hr set,
    ← readMembers_of_nested ih]
  cases set.members with
  | nil => exact Json.read_single leaf node (by decide) _
  | cons member rest =>
    rw [List.isEmpty_cons, if_neg Bool.false_ne_true, Json.read_wrap, Json.readMembers_eq_map]
    rfl

/-- Read as a whole, a compiled query is its set read directly, provided that a lone clause matching
everything reads the same under must as by itself. -/
theorem read_query {reading : ConditionSet → β} (hr : IsReading leaf node reading)
    (hm : node [("must", [leaf matchAll])] = leaf matchAll) {set : ConditionSet}
    (h : set.Reachable) : set.query.value.read leaf node = reading set := by
  rw [query_value h.nodup_keys, Json.read_wrap, hr set,
    ← readMembers_of_nested fun child hc => read_tree hr (h.of_nestedIn hc)]
  cases set.members with
  | nil => exact hm
  | cons member rest =>
    rw [List.isEmpty_cons, if_neg Bool.false_ne_true, Json.readMembers_eq_map]
    rfl

end SearchQuery

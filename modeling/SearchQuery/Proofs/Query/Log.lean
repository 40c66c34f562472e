import SearchQuery.Proofs.Query.Leaves
import SearchQuery.Proofs.Query.Suppression

/-! What is logged while a set is compiled. Each condition on fields comes to one of three things: a
clause of its own, a warning that its operator is not known, or a note that it has no clause. So
nothing is dropped from a query or widened in it without an entry in the log. Main statement:
`log_tree`. -/
namespace SearchQuery

/-! ### The log of a tree -/

namespace Condition

/-- What is logged for a condition on fields: a warning where every document matches because its
operator is not known, and a note where it has no clause. -/
def event? (c : Condition) : Option Event :=
  match c.operator with
  | .other text => some (.unrecognized text c.occur)
  | _ => if c.clause?.isNone then some (.suppressed c.operator c.subject) else none

theorem log_leaf (c : Condition) : c.leaf.log = c.event?.toList := by
  unfold leaf translate event?
  cases ho : c.operator with
  | other text => simp [clause?, ho, Logged.note]
  | _ => cases hc : c.clause? <;> simp [Logged.note]

theorem log_compile_of_child {c : Condition} {child : ConditionSet} (h : c.child? = some child) :
    c.compile.log = child.tree.log := by
  unfold child? at h
  split at h
  · cases h
    rw [compile, Logged.log_bind, Logged.log_pure, List.append_nil]
  · cases h

theorem log_compile_of_leaf {c : Condition} (h : c.child? = none) :
    c.compile.log = c.event?.toList := by
  unfold child? at h
  split at h
  · cases h
  · next hne =>
    rw [compile]
    · exact log_leaf c
    · exact hne

end Condition

theorem log_compileAll (conditions : List Condition) :
    (compileAll conditions).log = conditions.flatMap fun c => c.compile.log := by
  induction conditions with
  | nil => rfl
  | cons c rest ih =>
    rw [compileAll, Logged.log_bind, Logged.log_bind, Logged.log_pure, List.append_nil, ih,
      List.flatMap_cons]

/-- Whatever the occurrences are written into, the log is that of their conditions. -/
theorem log_compileGroups (groups : List (Occur × List Condition)) (members : Entries Json) :
    (compileGroups groups members).log =
      (Groups.values groups).flatMap fun c => c.compile.log := by
  induction groups generalizing members with
  | nil => rfl
  | cons group rest ih =>
    obtain ⟨occur, conditions⟩ := group
    rw [compileGroups, Logged.log_bind, log_compileAll, ih, Groups.values, Groups.values,
      List.flatMap_cons, List.flatMap_append]

theorem ConditionSet.log_tree_eq_flatMap (set : ConditionSet) :
    set.tree.log = (Groups.values set.groups).flatMap fun c => c.compile.log := by
  obtain ⟨groups⟩ := set
  rw [tree, Logged.log_bind, Logged.log_pure, List.append_nil, log_compileGroups]

/-- The log of a tree is that of its conditions on fields, at every depth in their places. -/
theorem ConditionSet.log_tree_eq_filterMap {set : ConditionSet} (h : set.Reachable) :
    set.tree.log = set.fieldConditions.filterMap Condition.event? := by
  have hlog : set.tree.log = set.fieldConditions.flatMap fun c => c.compile.log :=
    h.flatMap_fieldConditions (F := fun set => set.tree.log) log_tree_eq_flatMap
      Condition.log_compile_of_child
  rw [hlog, List.filterMap_eq_flatMap_toList]
  refine List.flatMap_congr fun c hc => ?_
  have fields := (h.canonical_fieldConditions c hc).2
  exact Condition.log_compile_of_leaf (Condition.child?_of_fields fields)

/-! ### Clauses of their own -/

/-- Whether a clause is the one that every document matches. -/
def Json.isMatchAll (clause : Json) : Bool := (clause.get? "match_all").isSome

/-- The clause of a condition, unless every document matches it. -/
def Condition.ownClause? (c : Condition) : Option Json :=
  c.clause?.filter fun clause => !clause.isMatchAll

/-- Only the clause of an operator that is not known matches every document. -/
theorem Condition.isMatchAll_of_known {c : Condition} {clause : Json}
    (known : ∀ text, c.operator ≠ .other text) (h : c.clause? = some clause) :
    clause.isMatchAll = false := by
  obtain ⟨body, rfl⟩ := clause?_eq_single h
  simp [Json.isMatchAll, Json.single, Json.get?, Entries.get?, kind_ne_matchAll known]

/-- A condition on fields has a clause of its own and logs nothing, or has none and logs one entry,
which is a warning or a note. -/
theorem Condition.ownClause?_or_event? (c : Condition) :
    (c.ownClause?.isSome = true ∧ c.event? = none) ∨
      (c.ownClause? = none ∧ ∃ event, c.event? = some event ∧
        (event.level = .warn ∨ event.level = .trace)) := by
  obtain ⟨text, hother⟩ | known := c.operator.other_or_known
  · have hclause : c.clause? = some matchAll := by rw [clause?, hother]
    have hevent : c.event? = some (.unrecognized text c.occur) := by rw [event?, hother]
    exact .inr ⟨by rw [ownClause?, hclause]; rfl, _, hevent, .inl rfl⟩
  · have hevent : c.event? =
        if c.clause?.isNone then some (.suppressed c.operator c.subject) else none := by
      unfold event?
      split
      · next text ho => exact absurd ho (known text)
      · rfl
    cases hclause : c.clause? with
    | none =>
      rw [hclause] at hevent
      exact .inr ⟨by rw [ownClause?, hclause]; rfl, _, hevent, .inr rfl⟩
    | some clause =>
      rw [hclause] at hevent
      refine .inl ⟨?_, hevent⟩
      rw [ownClause?, hclause, Option.filter_some, isMatchAll_of_known known hclause]
      rfl

/-- The three add up to all conditions. -/
theorem length_eq_counts (conditions : List Condition) :
    conditions.length = (conditions.filterMap Condition.ownClause?).length +
      (conditions.filterMap Condition.event?).countP (·.level == .warn) +
      (conditions.filterMap Condition.event?).countP (·.level == .trace) := by
  have hwarn : (Level.warn == Level.trace) = false := rfl
  have htrace : (Level.trace == Level.warn) = false := rfl
  induction conditions with
  | nil => rfl
  | cons c rest ih =>
    simp only [List.length_cons, List.filterMap_cons, ih]
    obtain ⟨hown, hevent⟩ | ⟨hown, event, hevent, hlevel⟩ := c.ownClause?_or_event?
    · obtain ⟨clause, hclause⟩ := Option.isSome_iff_exists.mp hown
      simp only [hclause, hevent, List.length_cons]
      omega
    · obtain hlevel | hlevel := hlevel
      all_goals
        simp only [hown, hevent, List.countP_cons, hlevel, beq_self_eq_true, hwarn, htrace,
          if_true, Bool.false_eq_true, if_false]
        omega

theorem leavesOfAll_eq_flatMap (conditions : List Condition) :
    leavesOfAll conditions = conditions.flatMap Condition.leaves := by
  induction conditions with
  | nil => rfl
  | cons c rest ih => rw [leavesOfAll, ih, List.flatMap_cons]

theorem leavesOfGroups_eq_flatMap (groups : List (Occur × List Condition)) :
    leavesOfGroups groups = (Groups.values groups).flatMap Condition.leaves := by
  induction groups with
  | nil => rfl
  | cons group rest ih =>
    obtain ⟨occur, conditions⟩ := group
    rw [leavesOfGroups, leavesOfAll_eq_flatMap, ih, Groups.values, Groups.values,
      List.flatMap_cons, List.flatMap_append]

/-- The clauses that not every document matches. -/
def ownLeaves (clauses : List Json) : List Json := clauses.filter fun clause => !clause.isMatchAll

namespace ConditionSet

/-- The clause that stands for a set without leaves is none of a condition's own. -/
theorem ownLeaves_leavesOrAll (set : ConditionSet) :
    ownLeaves set.leavesOrAll = ownLeaves set.leaves := by
  rw [leavesOrAll]
  split
  · next h =>
    rw [List.isEmpty_iff.mp h]
    rfl
  · rfl

theorem ownLeaves_eq_flatMap (set : ConditionSet) :
    ownLeaves set.leaves =
      (Groups.values set.groups).flatMap fun c => ownLeaves c.leaves := by
  obtain ⟨groups⟩ := set
  rw [leaves, leavesOfGroups_eq_flatMap, ownLeaves, List.filter_flatMap]
  rfl

end ConditionSet

theorem Condition.ownLeaves_of_child {c : Condition} {child : ConditionSet}
    (h : c.child? = some child) : ownLeaves c.leaves = ownLeaves child.leaves := by
  rw [leaves_eq, leaves?, readWith, h]
  exact child.ownLeaves_leavesOrAll

theorem Condition.ownLeaves_of_leaf {c : Condition} (h : c.child? = none) :
    ownLeaves c.leaves = c.ownClause?.toList := by
  have hleaves : c.leaves = c.clause?.toList := by
    rw [leaves_eq, leaves?, readWith, h]
    cases c.clause? <;> rfl
  rw [hleaves, ownClause?, Option.toList_filter]
  rfl

namespace ConditionSet

/-- The leaves of a set, but for those that every document matches, are the clauses of its
conditions on fields. -/
theorem ownLeaves_eq_filterMap {set : ConditionSet} (h : set.Reachable) :
    ownLeaves set.leaves = set.fieldConditions.filterMap Condition.ownClause? := by
  have hleaves : ownLeaves set.leaves =
      set.fieldConditions.flatMap fun c => ownLeaves c.leaves :=
    h.flatMap_fieldConditions (F := fun set => ownLeaves set.leaves) ownLeaves_eq_flatMap
      Condition.ownLeaves_of_child
  rw [hleaves, List.filterMap_eq_flatMap_toList]
  refine List.flatMap_congr fun c hc => ?_
  have fields := (h.canonical_fieldConditions c hc).2
  exact Condition.ownLeaves_of_leaf (Condition.child?_of_fields fields)

/-- Compiling a set logs one entry for each condition on fields that has no clause of its own, at
whatever depth, and nothing else: a warning where the operator is not known, and a note where there
is no clause. So the conditions on fields are as many as the clauses of their own in the tree, the
warnings and the notes together. -/
theorem log_tree {set : ConditionSet} (h : set.Reachable) :
    set.tree.log = set.fieldConditions.filterMap Condition.event? ∧
      set.fieldConditions.length =
        (ownLeaves (wrapBuckets set.tree.value).leafClauses).length +
          set.tree.log.countP (·.level == .warn) + set.tree.log.countP (·.level == .trace) := by
  have hleaves : (wrapBuckets set.tree.value).leafClauses = set.leavesOrAll :=
    read_tree isReading_leaves h
  refine ⟨log_tree_eq_filterMap h, ?_⟩
  rw [hleaves, ownLeaves_leavesOrAll, ownLeaves_eq_filterMap h, log_tree_eq_filterMap h]
  exact length_eq_counts set.fieldConditions

/-- An operator that is not known, and a nested set with a condition that has no value and one with
a clause. -/
def callerSteps : List Step :=
  [.filter (.field "name") "!=" (.str "bob"),
    .whereNested [.orWhereEq (.field "vip") (.str ""), .orWhere (.field "age") ">" (.ofNat 60)]]

def callers : ConditionSet := (gather callerSteps .empty).value

theorem log_tree_callers :
    callers.Reachable ∧
      callers.tree.log = [.unrecognized "!=" .filter, .suppressed .term (.field "vip")] ∧
      callers.fieldConditions.length = 3 ∧
      3 = (ownLeaves (wrapBuckets callers.tree.value).leafClauses).length +
        callers.tree.log.countP (·.level == .warn) +
        callers.tree.log.countP (·.level == .trace) := by
  have reachable : callers.Reachable := reachable_gather callerSteps .empty .empty
  obtain ⟨hlog, hcount⟩ := log_tree reachable
  exact ⟨reachable, hlog.trans rfl, rfl, hcount⟩

end ConditionSet

end SearchQuery

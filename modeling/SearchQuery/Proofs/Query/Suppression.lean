import SearchQuery.Proofs.Condition.Canonical
import SearchQuery.Proofs.Query.Tree

/-! The conditions on fields that a set comes down to, and which of them have no clause. A condition
needs a name in its subject and, unless it asks whether there is a value, a value; and only
full-text search takes a list of fields. Main statements: `flatMap_fieldConditions`,
`translate_eq_none_iff`. -/
namespace SearchQuery

/-! ### Conditions on fields, at any depth -/

mutual

/-- A condition on fields is one by itself. A nested one stands for those of its set. -/
def Condition.fieldConditions : Condition → List Condition
  | ⟨_, .nested conditions, _, _, _⟩ => conditions.fieldConditions
  | c => [c]

/-- The conditions on fields, in the order in which the occurrences were first used and then in the
order in which the conditions were added. -/
def ConditionSet.fieldConditions : ConditionSet → List Condition
  | ⟨groups⟩ => fieldConditionsOfGroups groups

def fieldConditionsOfGroups : List (Occur × List Condition) → List Condition
  | [] => []
  | (_, conditions) :: rest => fieldConditionsOfAll conditions ++ fieldConditionsOfGroups rest

def fieldConditionsOfAll : List Condition → List Condition
  | [] => []
  | c :: rest => c.fieldConditions ++ fieldConditionsOfAll rest

end

theorem Condition.fieldConditions_of_nested {c : Condition} {child : ConditionSet}
    (h : c.subject = .nested child) : c.fieldConditions = child.fieldConditions := by
  obtain ⟨occur, subject, operator, value, boost⟩ := c
  subst h
  rw [fieldConditions]

theorem Condition.fieldConditions_of_fields {c : Condition}
    (h : ∀ child, c.subject ≠ .nested child) : c.fieldConditions = [c] := by
  unfold fieldConditions
  split
  · exact absurd rfl (h _)
  · rfl

theorem fieldConditionsOfAll_eq (conditions : List Condition) :
    fieldConditionsOfAll conditions = conditions.flatMap Condition.fieldConditions := by
  induction conditions with
  | nil => rfl
  | cons c rest ih => rw [fieldConditionsOfAll, ih, List.flatMap_cons]

theorem fieldConditionsOfGroups_eq (groups : List (Occur × List Condition)) :
    fieldConditionsOfGroups groups =
      (Groups.values groups).flatMap Condition.fieldConditions := by
  induction groups with
  | nil => rfl
  | cons group rest ih =>
    obtain ⟨occur, conditions⟩ := group
    rw [fieldConditionsOfGroups, fieldConditionsOfAll_eq, ih, Groups.values, Groups.values,
      List.flatMap_cons, List.flatMap_append]

theorem ConditionSet.fieldConditions_eq (set : ConditionSet) :
    set.fieldConditions = (Groups.values set.groups).flatMap Condition.fieldConditions := by
  obtain ⟨groups⟩ := set
  rw [fieldConditions, fieldConditionsOfGroups_eq]

/-- In its stored form, a condition on a nested set has the operator that goes with one. -/
theorem Condition.Canonical.child?_eq {c : Condition} (canonical : c.Canonical)
    {child : ConditionSet} (h : c.subject = .nested child) : c.child? = some child := by
  have ho : c.operator = .nested := canonical.nested_iff.mpr ⟨child, h⟩
  obtain ⟨occur, subject, operator, value, boost⟩ := c
  subst h ho
  rfl

theorem Condition.child?_of_fields {c : Condition} (h : ∀ child, c.subject ≠ .nested child) :
    c.child? = none :=
  child?_eq_none fun _ child _ _ he => h child (by rw [he])

namespace ConditionSet.Reachable

variable {set : ConditionSet}

/-- The conditions on fields are stored as all conditions are, at whatever depth. -/
theorem canonical_fieldConditions (h : set.Reachable) :
    ∀ c ∈ set.fieldConditions, c.Canonical ∧ ∀ child, c.subject ≠ .nested child := by
  refine h.induct_nested (P := fun set => ∀ c ∈ set.fieldConditions,
    c.Canonical ∧ ∀ child, c.subject ≠ .nested child) fun set hset ih c hc => ?_
  rw [fieldConditions_eq, List.mem_flatMap] at hc
  obtain ⟨stored, hstored, hc⟩ := hc
  obtain ⟨child, hs⟩ | hs := stored.subject.nested_or_fields
  · rw [Condition.fieldConditions_of_nested hs] at hc
    exact ih child ⟨stored, hstored, hs⟩ c hc
  · rw [Condition.fieldConditions_of_fields hs, List.mem_singleton] at hc
    rw [hc]
    exact ⟨hset.canonical_conditions stored hstored, hs⟩

/-- What a set comes to condition after condition, a nested one coming to what its set does, is what
its conditions on fields come to. -/
theorem flatMap_fieldConditions {β : Type} {F : ConditionSet → List β} {f : Condition → List β}
    (h : set.Reachable) (all : ∀ set, F set = (Groups.values set.groups).flatMap f)
    (nested : ∀ {c child}, c.child? = some child → f c = F child) :
    F set = set.fieldConditions.flatMap f := by
  refine h.induct_nested (P := fun set => F set = set.fieldConditions.flatMap f)
    fun set hset ih => ?_
  rw [all, fieldConditions_eq, List.flatMap_assoc]
  refine List.flatMap_congr fun c hc => ?_
  obtain ⟨child, hs⟩ | hs := c.subject.nested_or_fields
  · rw [nested ((hset.canonical_conditions c hc).child?_eq hs),
      Condition.fieldConditions_of_nested hs]
    exact ih child ⟨c, hc, hs⟩
  · rw [Condition.fieldConditions_of_fields hs, List.flatMap_singleton]

end ConditionSet.Reachable

/-! ### Suppression -/

namespace Condition

variable {c : Condition}

theorem field?_eq_none_iff (fields : ∀ child, c.subject ≠ .nested child) :
    c.field? = none ↔ c.subject.isEmpty = true ∨ ∃ names, c.subject = .fields names := by
  unfold field?
  cases hs : c.subject with
  | field name => simp [Subject.isEmpty]
  | fields names => simp
  | nested child => exact absurd hs (fields child)

theorem fieldClause?_eq_none_iff {kind : String} {inner : Json} :
    c.fieldClause? kind inner = none ↔ c.value.isEmpty = true ∨ c.field? = none := by
  unfold fieldClause?
  split
  · next h => simp [h]
  · next h => simp [h]

theorem presenceClause?_eq_none_iff {kind : String} :
    c.presenceClause? kind = none ↔ c.field? = none :=
  Option.map_eq_none_iff

/-- Full-text search takes one field or several. -/
theorem fullTextClause?_eq_none_iff (fields : ∀ child, c.subject ≠ .nested child) :
    c.fullTextClause? = none ↔ c.subject.isEmpty = true ∨ c.value.isEmpty = true := by
  unfold fullTextClause?
  cases hs : c.subject with
  | field name =>
    have hfield : c.field? = none ↔ name.isEmpty = true := by simp [field?, hs]
    simp only [fieldClause?_eq_none_iff, hfield, Subject.isEmpty, or_comm]
  | fields names => simp [Subject.isEmpty, or_iff_not_imp_left]
  | nested child => exact absurd hs (fields child)

/-- A condition on fields has no clause without a name in its subject, without the value that its
operator needs, or where the operator needs one field and there is a list. -/
theorem clause?_eq_none_iff (fields : ∀ child, c.subject ≠ .nested child)
    (own : c.operator ≠ .nested) (known : ∀ text, c.operator ≠ .other text) :
    c.clause? = none ↔ c.subject.isEmpty = true ∨
      (c.operator ≠ .present ∧ c.operator ≠ .absent ∧ c.value.isEmpty = true) ∨
      (c.operator ≠ .fullText ∧ ∃ names, c.subject = .fields names) := by
  unfold clause?
  cases ho : c.operator with
  | term | terms | range bound =>
    simp [fieldClause?_eq_none_iff, field?_eq_none_iff fields, or_left_comm]
  | fullText => simp [fullTextClause?_eq_none_iff fields]
  | present | absent => simp [presenceClause?_eq_none_iff, field?_eq_none_iff fields]
  | nested => exact absurd ho own
  | other text => exact absurd ho (known text)

end Condition

namespace ConditionSet

/-- At whatever depth of a set, a condition on fields with a known operator has no clause exactly if
its subject is empty, if its value is empty and its operator needs one, or if its subject is a list
of fields and its operator is not full-text search. -/
theorem translate_eq_none_iff {set : ConditionSet} (h : set.Reachable) {c : Condition}
    (hc : c ∈ set.fieldConditions) (known : ∀ text, c.operator ≠ .other text) :
    c.translate.value = none ↔ c.subject.isEmpty = true ∨
      (c.operator ≠ .present ∧ c.operator ≠ .absent ∧ c.value.isEmpty = true) ∨
      (c.operator ≠ .fullText ∧ ∃ names, c.subject = .fields names) := by
  obtain ⟨canonical, fields⟩ := h.canonical_fieldConditions c hc
  have own : c.operator ≠ .nested := fun ho =>
    let ⟨child, hs⟩ := canonical.nested_iff.mp ho
    fields child hs
  rw [Condition.translate_value]
  exact Condition.clause?_eq_none_iff fields own known

/-- A name in any of two fields, and an address that is there. -/
def contactSteps : List Step :=
  [.orWhereNested [.whereIs (.fields ["name", "alias"]) "like" (.str "bob")],
    .present (.fields ["email"])]

def contacts : ConditionSet := (gather contactSteps .empty).value

def named : Condition := ⟨.must, .fields ["name", "alias"], .fullText, .str "bob", 0.0⟩

def addressed : Condition := ⟨.must, .fields ["email"], .present, .null, 0.0⟩

theorem reachable_contacts : contacts.Reachable := reachable_gather contactSteps .empty .empty

theorem fieldConditions_contacts : contacts.fieldConditions = [named, addressed] := rfl

theorem named_mem_contacts : named ∈ contacts.fieldConditions := by
  simp [fieldConditions_contacts]

theorem addressed_mem_contacts : addressed ∈ contacts.fieldConditions := by
  simp [fieldConditions_contacts]

theorem translate_eq_none_iff_named :
    contacts.Reachable ∧ named ∈ contacts.fieldConditions ∧
      (∀ text, named.operator ≠ .other text) ∧
      (named.translate.value = none ↔ named.subject.isEmpty = true ∨
        (named.operator ≠ .present ∧ named.operator ≠ .absent ∧ named.value.isEmpty = true) ∨
        (named.operator ≠ .fullText ∧ ∃ names, named.subject = .fields names)) ∧
      named.translate.value.isSome = true :=
  ⟨reachable_contacts, named_mem_contacts, nofun,
    translate_eq_none_iff reachable_contacts named_mem_contacts nofun, rfl⟩

/-- A list of one field asks whether the field has a value, which takes no value of its own, and yet
there is no clause. -/
theorem addressed_suppressed :
    contacts.Reachable ∧ addressed ∈ contacts.fieldConditions ∧ addressed.operator = .present ∧
      addressed.subject = .fields ["email"] ∧ addressed.translate.value = none ∧
      ¬(addressed.translate.value = none ↔ addressed.subject.isEmpty = true ∨
        (addressed.operator ≠ .present ∧ addressed.operator ≠ .absent ∧
          addressed.value.isEmpty = true)) := by
  refine ⟨reachable_contacts, addressed_mem_contacts, rfl, rfl, rfl, fun claimed => ?_⟩
  obtain hempty | ⟨hpresent, _⟩ := claimed.mp rfl
  · cases hempty
  · exact hpresent rfl

end ConditionSet

end SearchQuery

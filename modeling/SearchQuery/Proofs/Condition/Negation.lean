import SearchQuery.Proofs.Condition.Calls
import SearchQuery.Proofs.Condition.Canonical

/-! Negated operators under must. However it is recorded, a condition on fields with a negated
operator comes under must_not and leaves must as it was. A nested set takes no operator, and the
negation is lost with it. Main statement: `gains_of_negated`. -/
namespace SearchQuery

namespace ConditionSet

/-- The next set has one more condition under the occurrence, and the same as before under all
others. -/
structure Gains (set next : ConditionSet) (occur : Occur) (c : Condition) : Prop where
  under : next.under occur = set.under occur ++ [c]
  others : ∀ other ≠ occur, next.under other = set.under other

theorem gains_push (set : ConditionSet) (c : Condition) : set.Gains (set.push c) c.occur c where
  under := set.under_push_own c
  others _ h := under_push_of_ne h.symm set

variable {set : ConditionSet} {draft : Draft Subject} {result : Except Error ConditionSet}

/-- A negated condition on fields is stored under must_not, whichever call records it under must,
and must is left as it was. A negated nested set is stored under must, as one that is not
negated. -/
theorem gains_of_negated (call : set.Records .must draft result)
    (negated : Negated (Text.normal draft.operator).toList) (unnamed : draft.occurName? = none) :
    ∃ next, result = .ok next ∧
      ((∀ child, draft.subject ≠ .nested child) →
        ∃ c : Condition, c.subject = draft.subject ∧ c.value = draft.value ∧
          c.boost = draft.boost ∧ set.Gains next .mustNot c) ∧
      ∀ child, draft.subject = .nested child → set.Gains next .must (.nest .must child) := by
  refine ⟨_, call.eq_push unnamed, fun fields => ?_, fun child hchild => ?_⟩
  · rw [Condition.ofDraft_fields fields]
    have hgains := set.gains_push (.onFields .must draft)
    rw [Condition.occur_onFields, if_pos ⟨rfl, negated⟩] at hgains
    exact ⟨.onFields .must draft, Condition.subject_onFields .must draft,
      Condition.value_onFields .must draft, Condition.boost_onFields .must draft, hgains⟩
  · rw [Condition.ofDraft_nested hchild]
    exact set.gains_push (.nest .must child)

/-- A negated condition on two fields. -/
def notBob : Draft Subject := ⟨.fields ["name", "alias"], " NOT like ", .str "bob", 2.0⟩

theorem gains_of_negated_notBob :
    romans.Records .must notBob (romans.add " Must" notBob) ∧
      Negated (Text.normal notBob.operator).toList ∧ notBob.occurName? = none ∧
      (∀ child, notBob.subject ≠ .nested child) ∧
      ∃ next, romans.add " Must" notBob = .ok next ∧
        ∃ c : Condition, c.subject = .fields ["name", "alias"] ∧ c.value = .str "bob" ∧
          c.boost = 2.0 ∧ romans.Gains next .mustNot c := by
  have call : romans.Records .must notBob (romans.add " Must" notBob) := .add rfl
  have negated : Negated (Text.normal notBob.operator).toList :=
    .inr ⟨[' ', 'l', 'i', 'k', 'e'], rfl⟩
  obtain ⟨next, hnext, hfields, _⟩ := gains_of_negated call negated rfl
  exact ⟨call, negated, rfl, nofun, next, hnext, hfields nofun⟩

/-- A nested set that is to be negated. -/
def notRomans : Draft Subject := ⟨.nested romans, "not", .null, 0.0⟩

/-- The negation of a nested set is lost: it comes under must, and there is nothing under
must_not. -/
theorem notRomans_underMust :
    empty.Records .must notRomans
        (.ok (empty.record .whereIs (.ofOperator (.nested romans) "not" .null)).value) ∧
      Negated (Text.normal notRomans.operator).toList ∧ notRomans.occurName? = none ∧
      (empty.record .whereIs (.ofOperator (.nested romans) "not" .null)).value.under .mustNot =
        [] ∧
      (empty.record .whereIs (.ofOperator (.nested romans) "not" .null)).value.under .must =
        [.nest .must romans] :=
  ⟨.record rfl rfl, .inr ⟨[], rfl⟩, rfl, rfl, rfl⟩

end ConditionSet

end SearchQuery

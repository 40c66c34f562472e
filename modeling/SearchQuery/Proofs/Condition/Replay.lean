import SearchQuery.Proofs.Condition.Canonical

/-! Sets of conditions built again from what they store. The words of a stored condition are read as
that condition, and conditions added in stored order file themselves as before. Main statements:
`Condition.Canonical.add_draft`, `ConditionSet.replay_eq`. -/
namespace SearchQuery

/-- The text of a known operator is read as that operator, under any occurrence. -/
theorem Operator.settled {operator : Operator} (hnested : operator ≠ .nested)
    (hother : ∀ text, operator ≠ .other text) :
    Text.normal operator.text = operator.text ∧ ¬Negated operator.text.toList ∧
      ofText operator.text = operator := by
  cases operator with
  | range bound => cases bound <;> exact ⟨rfl, by decide, rfl⟩
  | nested => exact absurd rfl hnested
  | other text => exact absurd rfl (hother text)
  | _ => exact ⟨rfl, by decide, rfl⟩

namespace Condition

/-- The words that ask for a condition as it is stored. -/
def draft (c : Condition) : Draft Subject := ⟨c.subject, c.operator.text, c.value, c.boost⟩

variable {c : Condition}

theorem eta (c : Condition) : (⟨c.occur, c.subject, c.operator, c.value, c.boost⟩ : Condition) = c := by
  cases c
  rfl

theorem Canonical.settled (h : c.Canonical) (hnested : c.operator ≠ .nested) :
    Text.normal c.operator.text = c.operator.text ∧
      ¬(c.occur = .must ∧ Negated c.operator.text.toList) ∧
      Operator.ofText c.operator.text = c.operator := by
  by_cases hother : ∃ text, c.operator = .other text
  · obtain ⟨text, ho⟩ := hother
    rw [ho]
    refine ⟨?_, fun hn => h.not_negated text ho hn.1 hn.2, h.unknown_other text ho⟩
    rw [Operator.text, Text.normal, h.trim_other text ho, h.lower_other text ho]
  · obtain ⟨hnormal, hneg, htext⟩ :=
      Operator.settled hnested fun text ho => hother ⟨text, ho⟩
    exact ⟨hnormal, fun hn => hneg hn.2, htext⟩

theorem Canonical.forValue_eq (h : c.Canonical) : c.operator.forValue c.value = c.operator := by
  rw [Operator.forValue_eq, if_neg]
  rintro ⟨ho, hv⟩
  exact Bool.eq_false_iff.mp (h.value_term ho) hv

theorem Canonical.onFields_draft (h : c.Canonical) (hnested : c.operator ≠ .nested) :
    onFields c.occur c.draft = c := by
  obtain ⟨hnormal, hneg, htext⟩ := h.settled hnested
  have hneg' : ¬(c.occur = .must ∧ Negated (Text.normal c.draft.operator).toList) := by
    rwa [draft, hnormal]
  rw [onFields_eq, readNegation_of_not_negated hneg', operatorText_of_not_negated hneg']
  simp only [draft, hnormal, htext, h.forValue_eq, Bool.false_eq_true, if_false, eta]

theorem Canonical.nest_eq (h : c.Canonical) {child : ConditionSet}
    (hc : c.subject = .nested child) : nest c.occur child = c := by
  have ho : c.operator = .nested := h.nested_iff.mpr ⟨child, hc⟩
  obtain ⟨hvalue, hboost⟩ := h.value_nested ho
  rw [nest, ← hc, ← ho, ← hvalue, ← hboost, eta]

/-- Added by its own words under the name of its occurrence, a stored condition is the same
again. -/
theorem Canonical.add_draft (h : c.Canonical) : add c.occur.name c.draft = .ok c := by
  by_cases hnested : c.operator = .nested
  · obtain ⟨child, hc⟩ := h.nested_iff.mp hnested
    have hname : c.draft.occurName? = none := by
      simp only [Draft.occurName?, draft, hc, (h.value_nested hnested).1]
    refine add_eq_ok_iff.mpr ⟨c.occur, c.occur.parse_name, c.occur, ?_, ?_⟩
    · rw [Draft.occur, hname]
    · rw [ofDraft_nested hc, h.nest_eq hc]
  · have hs : ∀ child, c.draft.subject ≠ .nested child :=
      fun child hc => hnested (h.nested_iff.mpr ⟨child, hc⟩)
    rw [add_name_fields c.occur hs, h.onFields_draft hnested]

end Condition

namespace ConditionSet

/-- The set with conditions added under the name of an occurrence, each in its own words. -/
def addAll (set : ConditionSet) (occur : Occur) (conditions : List Condition) :
    Except Error ConditionSet :=
  conditions.foldlM (fun set c => set.add occur.name c.draft) set

/-- A fresh set to which the conditions of this one are added, occurrence after occurrence. -/
def replay (set : ConditionSet) : Except Error ConditionSet :=
  set.groups.foldlM (fun copy group => copy.addAll group.1 group.2) .empty

theorem addAll_eq {occur : Occur} {conditions : List Condition}
    (hcanonical : ∀ c ∈ conditions, c.Canonical) (hown : ∀ c ∈ conditions, c.occur = occur)
    (set : ConditionSet) : set.addAll occur conditions = .ok (conditions.foldl push set) := by
  induction conditions generalizing set with
  | nil => rfl
  | cons c rest ih =>
    obtain ⟨hc, hrest⟩ := List.forall_mem_cons.mp hcanonical
    obtain ⟨rfl, hown⟩ := List.forall_mem_cons.mp hown
    have hadd : set.add c.occur.name c.draft = .ok (set.push c) :=
      add_eq_ok_iff.mpr ⟨c, hc.add_draft, rfl⟩
    rw [addAll, List.foldlM_cons, hadd]
    exact ih hrest hown (set.push c)

theorem foldlM_addAll {groups : Groups Occur Condition}
    (hcanonical : ∀ c ∈ Groups.values groups, c.Canonical)
    (hown : ∀ group ∈ groups, ∀ c ∈ group.2, c.occur = group.1) (set : ConditionSet) :
    groups.foldlM (fun copy group => copy.addAll group.1 group.2) set =
      .ok ((Groups.values groups).foldl push set) := by
  induction groups generalizing set with
  | nil => rfl
  | cons group rest ih =>
    rw [Groups.values, List.flatMap_cons, ← Groups.values] at hcanonical ⊢
    obtain ⟨hgroup, hrest⟩ := List.forall_mem_append.mp hcanonical
    obtain ⟨hfirst, hothers⟩ := List.forall_mem_cons.mp hown
    rw [List.foldlM_cons, addAll_eq hgroup hfirst, List.foldl_append]
    exact ih hrest hothers _

/-- A reachable set is what its stored conditions give when they are added again, and none of them
is refused. -/
theorem replay_eq {set : ConditionSet} (h : set.Reachable) : set.replay = .ok set := by
  rw [replay, foldlM_addAll h.canonical_conditions h.filed.own, foldl_push]
  obtain ⟨groups⟩ := set
  exact congrArg (fun groups => Except.ok (ConditionSet.mk groups)) h.filed.fileAll_values

/-- Everyone under all four occurrences. -/
def everyone : ConditionSet := (gather (strangerSteps ++ guestSteps) .empty).value

theorem replay_eq_everyone :
    everyone.Reachable ∧ everyone.replay = .ok everyone ∧
      Groups.keys everyone.groups = [.mustNot, .should, .must, .filter] :=
  have reachable := reachable_gather (strangerSteps ++ guestSteps) .empty .empty
  ⟨reachable, replay_eq reachable, rfl⟩

end ConditionSet

end SearchQuery

import SearchQuery.Condition.Script

/-! What a run of steps leaves in a set of conditions. A step stores one condition or none, whatever
the set holds already, so a run pushes the conditions of its steps one after the other. Main
statements: `gather_value`, `under_gather`. -/
namespace SearchQuery

theorem Arguments.build_value (arguments : Arguments Target) :
    (Arguments.build arguments).value = arguments.about arguments.subject.build.value := by
  cases arguments <;> rw [Arguments.build] <;> rfl

namespace Step

/-- The condition that a step adds to its set, unless the step is refused. -/
def stored? (step : Step) : Option Condition := step.condition.value.toOption

/-! ### What each step stores -/

theorem value_add (occur : String) (draft : Draft Target) :
    (add occur draft).condition.value =
      Condition.add occur (draft.about draft.subject.build.value) := by
  obtain ⟨target, operator, value, boost⟩ := draft
  rw [condition]
  rfl

theorem value_addNested (base : String) (override? : Option String) (steps : List Step) :
    (addNested base override? steps).condition.value =
      (Occur.ofNames base override?).map (.nest · (gather steps .empty).value) := by
  rw [condition]
  cases Occur.ofNames base override? <;> rfl

theorem value_apply (verb : String) (arguments : Arguments Target) :
    (apply verb arguments).condition.value =
      (Verb.parse verb).bind fun verb =>
        Condition.apply verb (arguments.about arguments.subject.build.value) := by
  rw [condition, ← Arguments.build_value]
  rfl

theorem value_record (verb : Verb) (arguments : Arguments Target) :
    (record verb arguments).condition.value =
      .ok (Condition.record verb (arguments.about arguments.subject.build.value)).value := by
  rw [condition, ← Arguments.build_value]
  rfl

theorem value_nest (occur : Occur) (steps : List Step) :
    (nest occur steps).condition.value = .ok (.nest occur (gather steps .empty).value) := by
  rw [condition]
  rfl

end Step

/-! ### Runs -/

/-- The conditions that a run adds, in the order of its steps. -/
def storedBy (steps : List Step) : List Condition := steps.filterMap Step.stored?

theorem gather_cons_ok {step : Step} {c : Condition} (h : step.condition.value = .ok c)
    (rest : List Step) (set : ConditionSet) :
    (gather (step :: rest) set).value = (gather rest (set.push c)).value := by
  rw [gather, Logged.value_bind, h]

theorem gather_cons_error {step : Step} {e : Error} (h : step.condition.value = .error e)
    (rest : List Step) (set : ConditionSet) :
    (gather (step :: rest) set).value = (gather rest set).value := by
  rw [gather, Logged.value_bind, h]
  rfl

theorem gather_value (steps : List Step) (set : ConditionSet) :
    (gather steps set).value = (storedBy steps).foldl ConditionSet.push set := by
  induction steps generalizing set with
  | nil => rfl
  | cons step rest ih =>
    rw [storedBy, List.filterMap_cons, Step.stored?]
    cases h : step.condition.value with
    | ok c =>
      rw [gather_cons_ok h]
      exact ih (set.push c)
    | error e =>
      rw [gather_cons_error h]
      exact ih set

theorem gather_append (steps steps' : List Step) (set : ConditionSet) :
    (gather (steps ++ steps') set).value = (gather steps' (gather steps set).value).value := by
  simp only [gather_value, storedBy, List.filterMap_append, List.foldl_append]

theorem ConditionSet.under_foldl_push (conditions : List Condition) (set : ConditionSet)
    (occur : Occur) :
    (conditions.foldl push set).under occur =
      set.under occur ++ conditions.filter (·.occur = occur) := by
  induction conditions generalizing set with
  | nil => simp
  | cons c rest ih =>
    rw [List.foldl_cons, ih, under_push]
    by_cases h : c.occur = occur <;> simp [h]

/-- Under each occurrence a run appends what it stores there. -/
theorem under_gather (steps : List Step) (set : ConditionSet) (occur : Occur) :
    (gather steps set).value.under occur =
      set.under occur ++ (storedBy steps).filter (·.occur = occur) := by
  rw [gather_value, ConditionSet.under_foldl_push]

theorem nodup_keys_gather {set : ConditionSet} (steps : List Step)
    (h : (Groups.keys set.groups).Nodup) :
    (Groups.keys (gather steps set).value.groups).Nodup := by
  rw [gather_value]
  generalize storedBy steps = conditions
  induction conditions generalizing set with
  | nil => exact h
  | cons c rest ih => exact ih (Groups.nodup_keys_file h)

end SearchQuery

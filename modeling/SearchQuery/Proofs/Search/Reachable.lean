import SearchQuery.Proofs.Search.Run

/-! The searches that a caller can come to, and the operations of a run with what each came to. An
invariant of the moves holds wherever an operation is performed. Main statements:
`induct_run`, `reachable_iff_run`, `id_ne_empty`. -/
namespace SearchQuery

theorem nonEmpty?_ne_empty {name other : String} (h : nonEmpty? name = some other) :
    other ≠ "" := by
  rintro rfl
  have hself := nonEmpty?_eq_some h
  cases hself

namespace Search

/-- A search that moves come to, whatever engines they meet. -/
inductive Reachable : Search → Prop
  | start (defaults : Defaults) : Reachable (start defaults)
  | edit {search : Search} (before : Reachable search) (change : Edit) :
      Reachable (search.edit change)
  | step {search next : Search} {step : Step} (before : Reachable search)
      (added : (search.step step).value = .ok next) : Reachable next
  | perform {search : Search} (before : Reachable search) (engine : Engine)
      (operation : Operation) : Reachable (search.perform engine operation).value.search

/-- The operations of a run, each with what it came to. -/
def trace : Search → List Move → List (Operation × Outcome)
  | _, [] => []
  | search, .edit change :: rest => trace (search.edit change) rest
  | search, .step step :: rest =>
    match (search.step step).value with
    | .ok next => trace next rest
    | .error _ => []
  | search, .perform engine operation :: rest =>
    let outcome := (search.perform engine operation).value
    (operation, outcome) :: trace outcome.search rest

variable {search next : Search}

/-- A run goes on from where its first part ends. -/
theorem run_append {moves : List Move} (h : (search.run moves).2 = .ok next)
    (more : List Move) :
    search.run (moves ++ more) = ((search.run moves).1 ++ (next.run more).1, (next.run more).2) := by
  induction moves generalizing search with
  | nil =>
    cases h
    rfl
  | cons move rest ih =>
    cases move with
    | edit change => exact ih h
    | step step =>
      simp only [run, List.cons_append] at h ⊢
      cases hstep : (search.step step).value with
      | ok stepped =>
        simp only [hstep] at h ⊢
        exact ih h
      | error error =>
        simp only [hstep] at h
        cases h
    | perform engine operation =>
      simp only [run, List.cons_append] at h ⊢
      rw [ih h]

/-- An invariant of the moves: whatever a run performs, it performs where the invariant holds, and
so does what it ends in. -/
theorem induct_run {I : Search → Prop} {P : Operation × Outcome → Prop}
    (edit : ∀ {search} change, I search → I (search.edit change))
    (step : ∀ {search next step}, (search.step step).value = .ok next → I search → I next)
    (perform : ∀ {search} engine operation, I search →
      P (operation, (search.perform engine operation).value) ∧
        I (search.perform engine operation).value.search)
    (h : I search) (moves : List Move) :
    (∀ performed ∈ search.trace moves, P performed) ∧
      ∀ next, (search.run moves).2 = .ok next → I next := by
  induction moves generalizing search with
  | nil =>
    refine ⟨List.forall_mem_nil P, fun next hnext => ?_⟩
    cases hnext
    exact h
  | cons move rest ih =>
    cases move with
    | edit change => exact ih (edit change h)
    | step added =>
      simp only [trace, run]
      cases hstep : (search.step added).value with
      | ok next => exact ih (step hstep h)
      | error error => exact ⟨List.forall_mem_nil P, nofun⟩
    | perform engine operation =>
      obtain ⟨hperformed, hrest⟩ := perform engine operation h
      obtain ⟨htrace, hend⟩ := ih hrest
      exact ⟨List.forall_mem_cons.mpr ⟨hperformed, htrace⟩, hend⟩

/-- A run from a reachable search performs on reachable searches, and ends in one. -/
theorem Reachable.run (h : search.Reachable) (moves : List Move) :
    (∀ performed ∈ search.trace moves, ∃ (before : Search) (engine : Engine), before.Reachable ∧
      performed.2 = (before.perform engine performed.1).value) ∧
      ∀ next, (search.run moves).2 = .ok next → next.Reachable :=
  induct_run (fun change before => before.edit change) (fun added before => before.step added)
    (fun engine operation before =>
      ⟨⟨_, engine, before, rfl⟩, before.perform engine operation⟩) h moves

/-- The reachable searches are those that runs end in. -/
theorem reachable_iff_run :
    search.Reachable ↔ ∃ defaults moves, ((start defaults).run moves).2 = .ok search := by
  refine ⟨fun h => ?_, fun ⟨defaults, moves, h⟩ => ((Reachable.start defaults).run moves).2 _ h⟩
  induction h with
  | start defaults => exact ⟨defaults, [], rfl⟩
  | edit _ change ih =>
    obtain ⟨defaults, moves, hrun⟩ := ih
    exact ⟨defaults, moves ++ [.edit change], by rw [run_append hrun]; rfl⟩
  | @step search next step _ added ih =>
    obtain ⟨defaults, moves, hrun⟩ := ih
    refine ⟨defaults, moves ++ [.step step], ?_⟩
    rw [run_append hrun]
    simp only [run, added]
  | perform _ engine operation ih =>
    obtain ⟨defaults, moves, hrun⟩ := ih
    exact ⟨defaults, moves ++ [.perform engine operation], by rw [run_append hrun]; rfl⟩

/-! ### Identifiers -/

/-- A change to the options keeps the identifier or sets one that is not empty, or none. -/
theorem id_edited (defaults : Defaults) (options : Options) (change : Edit) :
    (edited defaults options change).id = options.id ∨
      ∃ given, (edited defaults options change).id = nonEmpty? given := by
  cases change with
  | id given => exact .inr ⟨given, rfl⟩
  | _ => exact .inl rfl

theorem step_eq_ok_iff {step : Step} :
    (search.step step).value = .ok next ↔ ∃ c, step.condition.value = .ok c ∧
      { search with conditions := search.conditions.push c } = next := by
  rw [Search.step, Logged.value_bind, Logged.value_pure]
  cases step.condition.value <;> simp [Except.map]

theorem id_ne_empty_edit (h : ∀ id, search.options.id = some id → id ≠ "") (change : Edit) :
    ∀ id, (search.edit change).options.id = some id → id ≠ "" := by
  intro id set
  obtain hkept | ⟨given, hgiven⟩ := id_edited search.defaults search.options change
  · exact h id (hkept.symm.trans set)
  · exact nonEmpty?_ne_empty (hgiven.symm.trans set)

/-- No reachable search has an empty identifier. -/
theorem Reachable.id_ne_empty (h : search.Reachable) :
    ∀ id, search.options.id = some id → id ≠ "" := by
  induction h with
  | start defaults => exact nofun
  | edit _ change ih => exact id_ne_empty_edit ih change
  | step _ added ih =>
    obtain ⟨_, _, rfl⟩ := step_eq_ok_iff.mp added
    exact ih
  | @perform search _ engine operation ih =>
    rw [search_perform]
    cases hid : operation.id? with
    | none =>
      rw [address_none search hid]
      exact ih
    | some given =>
      rw [address_some search hid]
      exact id_ne_empty_edit ih (.id given)

end Search

end SearchQuery

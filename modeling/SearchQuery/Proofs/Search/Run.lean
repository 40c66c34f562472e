import SearchQuery.Search.Operation

/-! Runs of a search: changes to its options, conditions added to it, and operations, in any order.
What one operation can come to is said once here. Main statements: `perform_cases`,
`address_eq`. -/
namespace SearchQuery

/-- One thing that a caller does with a search. The engine may answer every operation otherwise. -/
inductive Move where
  | edit (change : Edit)
  | step (step : Step)
  | perform (engine : Engine) (operation : Operation)

/-- The identifier that an operation brings, unless it is empty. -/
def Operation.id? : Operation → Option String
  | .find id _ | .update _ id | .delete id => id.bind nonEmpty?
  | _ => none

theorem nonEmpty?_eq_some {name other : String} (h : nonEmpty? name = some other) :
    nonEmpty? other = some other := by
  unfold nonEmpty? at h ⊢
  split at h
  · cases h
  · next hne =>
    cases h
    exact if_neg hne

theorem Operation.nonEmpty?_id {operation : Operation} {id : String}
    (h : operation.id? = some id) : nonEmpty? id = some id := by
  unfold id? at h
  split at h
  case h_4 => cases h
  all_goals
    obtain ⟨name, _, hname⟩ := Option.bind_eq_some_iff.mp h
    exact nonEmpty?_eq_some hname

namespace Search

/-- What a run comes to: the outcomes of its operations, and the search that is left. A condition
that is refused takes the search with it, and the run ends. -/
def run : Search → List Move → List Outcome × Except Error Search
  | search, [] => ([], .ok search)
  | search, .edit change :: rest => run (search.edit change) rest
  | search, .step step :: rest =>
    match (search.step step).value with
    | .ok next => run next rest
    | .error error => ([], .error error)
  | search, .perform engine operation :: rest =>
    let outcome := (search.perform engine operation).value
    (outcome :: (run outcome.search rest).1, (run outcome.search rest).2)

theorem address_some (search : Search) {operation : Operation} {id : String}
    (h : operation.id? = some id) : search.address operation = search.edit (.id id) := by
  cases operation with
  | find given _ | update _ given | delete given =>
    rw [Operation.id?] at h
    simp only [address, h]
  | _ => cases h

theorem address_none (search : Search) {operation : Operation} (h : operation.id? = none) :
    search.address operation = search := by
  cases operation with
  | find given _ | update _ given | delete given =>
    rw [Operation.id?] at h
    simp only [address, h]
  | _ => rfl

/-- Of all that a search consists of, an operation can only set the identifier. -/
theorem address_eq (search : Search) (operation : Operation) :
    search.address operation =
      { search with options :=
          { search.options with id := operation.id?.or search.options.id } } := by
  cases h : operation.id? with
  | none => rw [address_none search h]; rfl
  | some id =>
    rw [address_some search h, edit, edited, Operation.nonEmpty?_id h]
    rfl

/-- An operation is refused without a call, or makes one call, which fails or is answered. -/
theorem perform_cases (search : Search) (engine : Engine) (operation : Operation) :
    (∃ error, ((search.address operation).call operation).value = .error error ∧
      (search.perform engine operation).value = ⟨search.address operation, [], .error error⟩) ∨
    (∃ call fault, ((search.address operation).call operation).value = .ok call ∧
      engine call = .error fault ∧ (search.perform engine operation).value =
        ⟨search.address operation, [call], .error (.transport fault)⟩) ∨
    ∃ call reply, ((search.address operation).call operation).value = .ok call ∧
      engine call = .ok reply ∧ (search.perform engine operation).value =
        ⟨search.address operation, [call],
          .ok ((search.address operation).read reply operation).value⟩ := by
  rw [perform, Logged.value_bind]
  cases hcall : ((search.address operation).call operation).value with
  | error error => exact .inl ⟨error, rfl, rfl⟩
  | ok call =>
    right
    cases hreply : engine call with
    | error fault => exact .inl ⟨call, fault, rfl, hreply, by simp only [hreply]; rfl⟩
    | ok reply => exact .inr ⟨call, reply, rfl, hreply, by simp only [hreply]; rfl⟩

theorem search_perform (search : Search) (engine : Engine) (operation : Operation) :
    (search.perform engine operation).value.search = search.address operation := by
  obtain ⟨_, _, h⟩ | ⟨_, _, _, _, h⟩ | ⟨_, _, _, _, h⟩ := perform_cases search engine operation
  all_goals rw [h]

end Search

end SearchQuery

import SearchQuery.Proofs.Search.Run

/-! Operations that are refused. One that brings no identifier leaves the search as it was; one that
brings an identifier leaves it set, and nothing else. So a run comes to the same without its refused
operations, once the identifiers that they brought are set in their place. Main statements:
`perform_refused`, `run_withoutRefused`. -/
namespace SearchQuery

/-- The moves that set the identifier of an operation. -/
def Operation.setId (operation : Operation) : List Move :=
  operation.id?.toList.map fun id => .edit (.id id)

/-- The operation did not pass its own checks. -/
def Outcome.refused (outcome : Outcome) : Bool :=
  match outcome.answer with
  | .error (.transport _) => false
  | .error _ => true
  | .ok _ => false

namespace Search

theorem run_setId (search : Search) (operation : Operation) (moves : List Move) :
    search.run (operation.setId ++ moves) = (search.address operation).run moves := by
  cases h : operation.id? with
  | none => rw [address_none search h, Operation.setId, h]; rfl
  | some id => rw [address_some search h, Operation.setId, h]; rfl

/-- Only the engine fails an operation after a call. -/
theorem calls_of_error {search : Search} {engine : Engine} {operation : Operation} {error : Error}
    (h : (search.perform engine operation).value.answer = .error error)
    (own : ∀ fault, error ≠ .transport fault) :
    (search.perform engine operation).value.calls = [] := by
  obtain ⟨_, _, heq⟩ | ⟨_, fault, _, _, heq⟩ | ⟨_, _, _, _, heq⟩ :=
    perform_cases search engine operation
  · rw [heq]
  · rw [heq] at h
    cases h
    exact absurd rfl (own fault)
  · rw [heq] at h
    cases h

/-- A refused operation makes no call, and leaves the conditions, the defaults and all options but
the identifier, and the identifier too unless it brought one. Whatever comes later goes as if only
that had been set. -/
theorem perform_refused (search : Search) (engine : Engine) (operation : Operation) {error : Error}
    (refused : (search.perform engine operation).value.answer = .error error)
    (own : ∀ fault, error ≠ .transport fault) :
    (search.perform engine operation).value.calls = [] ∧
    (search.perform engine operation).value.search.conditions = search.conditions ∧
    (search.perform engine operation).value.search.defaults = search.defaults ∧
    (search.perform engine operation).value.search.options =
      { search.options with id := operation.id?.or search.options.id } ∧
    ∀ moves, (search.perform engine operation).value.search.run moves =
      search.run (operation.setId ++ moves) := by
  refine ⟨calls_of_error refused own, ?_⟩
  rw [search_perform]
  refine ⟨?_, ?_, ?_, fun moves => (run_setId search operation moves).symm⟩
  all_goals rw [address_eq]

/-- A search of users, with no identifier set. -/
def users : Search := (start ⟨"_doc", .asc, true⟩).edit (.index "users")

/-- An engine that acknowledges every call. -/
def acknowledging : Engine := fun _ => .ok (.single "acknowledged" (.bool true))

/-- The update of a document with nothing, which is refused although it brings an identifier. -/
def emptyUpdate : Operation := .update (.obj []) (some "3")

theorem perform_refused_emptyUpdate :
    (users.perform acknowledging emptyUpdate).value.answer = .error (.nothingToWrite .update) ∧
    (∀ fault, Error.nothingToWrite .update ≠ .transport fault) ∧
    (users.perform acknowledging emptyUpdate).value.search.options =
      { users.options with id := some "3" } :=
  ⟨rfl, nofun, (perform_refused users acknowledging emptyUpdate rfl nofun).2.2.2.1⟩

/-- The identifier of a refused update stays, so that a later deletion that names no document is
not refused but deletes one. -/
theorem emptyUpdate_sets_id :
    (users.perform acknowledging emptyUpdate).value.answer = .error (.nothingToWrite .update) ∧
    users.options.id = none ∧
    (users.perform acknowledging emptyUpdate).value.search.options.id = some "3" ∧
    (users.perform acknowledging (.delete none)).value.answer = .error (.idMissing .delete) ∧
    ((users.perform acknowledging emptyUpdate).value.search.perform acknowledging
      (.delete none)).value.calls = [.delete ⟨"users", "_doc", some "3", none⟩] :=
  ⟨rfl, rfl, rfl, rfl, rfl⟩

/-- The moves of a run with the identifiers of refused operations set in place of the operations.
Nothing comes after a refused condition. -/
def withoutRefused : Search → List Move → List Move
  | _, [] => []
  | search, .edit change :: rest => .edit change :: withoutRefused (search.edit change) rest
  | search, .step step :: rest =>
    match (search.step step).value with
    | .ok next => .step step :: withoutRefused next rest
    | .error _ => [.step step]
  | search, .perform engine operation :: rest =>
    let outcome := (search.perform engine operation).value
    (if outcome.refused then operation.setId else [.perform engine operation]) ++
      withoutRefused outcome.search rest

/-- Without its refused operations a run has all other outcomes, and it leaves the same search. -/
theorem run_withoutRefused (search : Search) (moves : List Move) :
    search.run (search.withoutRefused moves) =
      ((search.run moves).1.filter (!·.refused), (search.run moves).2) := by
  induction moves generalizing search with
  | nil => rfl
  | cons move rest ih =>
    cases move with
    | edit change => exact ih (search.edit change)
    | step step =>
      cases hstep : (search.step step).value with
      | error error => simp only [withoutRefused, run, hstep, List.filter_nil]
      | ok next => simp only [withoutRefused, run, hstep, ih next]
    | perform engine operation =>
      have hrest := ih (search.perform engine operation).value.search
      cases hrefused : (search.perform engine operation).value.refused with
      | true =>
        rw [search_perform] at hrest
        simp only [withoutRefused, run, hrefused, if_true, run_setId, search_perform, hrest,
          List.filter_cons, Bool.not_true, Bool.false_eq_true, if_false]
      | false =>
        simp only [withoutRefused, hrefused, Bool.false_eq_true, if_false, List.cons_append,
          List.nil_append, run, hrest, List.filter_cons, Bool.not_false, if_true]

end Search

end SearchQuery

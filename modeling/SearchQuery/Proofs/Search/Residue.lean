import SearchQuery.Proofs.Search.Reachable
import SearchQuery.Proofs.Search.Refusal

/-! What operations leave behind in a search: the identifiers that they bring, and nothing else. So
a run ends in the search that its changes and its conditions make, with those identifiers set in the
places of the operations, and a body that an operation sends never becomes the search's own. Main
statement: `follow_residue`. -/
namespace SearchQuery

/-- One thing that a caller does with a search or asks of it: a move, or the request as things
stand. -/
inductive Use where
  | move (move : Move)
  | request

namespace Use

/-- What a use comes to for those after it: an operation to the setting of its identifier, if it
brings one, and a request to nothing. -/
def residue : Use → List Move
  | .move (.perform _ operation) => operation.setId
  | .move other => [other]
  | .request => []

/-- The body of its own that a search has after a use that sets one, or clears it. -/
def body? : Use → Option (Option Body)
  | .move (.edit (.body value)) => some (Body.ofValue? value)
  | .move (.edit .suppressBody) => some (some .suppressed)
  | _ => none

end Use

namespace Search

/-- The search after a move, unless the move is a condition that is refused. -/
def after (search : Search) : Move → Except Error Search
  | .edit change => .ok (search.edit change)
  | .step step => (search.step step).value
  | .perform engine operation => .ok (search.perform engine operation).value.search

/-- The requests that a caller asks for on the way, and the search that is left. A condition that is
refused takes the search with it. -/
def follow : Search → List Use → List (Except Error Request) × Except Error Search
  | search, [] => ([], .ok search)
  | search, .request :: rest =>
    (search.request.value :: (follow search rest).1, (follow search rest).2)
  | search, .move move :: rest =>
    match search.after move with
    | .ok next => follow next rest
    | .error error => ([], .error error)

variable {search next : Search}

/-! ### Runs with requests on the way -/

theorem follow_move (search : Search) (move : Move) (rest : List Use) :
    search.follow (.move move :: rest) =
      match search.after move with
      | .ok next => next.follow rest
      | .error error => ([], .error error) := by
  rw [follow]

/-- Moves alone end where the run of them does, and ask for no request. -/
theorem follow_moves (search : Search) (moves : List Move) :
    search.follow (moves.map .move) = ([], (search.run moves).2) := by
  induction moves generalizing search with
  | nil => rfl
  | cons move rest ih =>
    rw [List.map_cons, follow_move]
    cases move with
    | edit change => exact ih (search.edit change)
    | step step =>
      rw [after, run]
      cases (search.step step).value with
      | ok next => exact ih next
      | error error => rfl
    | perform engine operation => exact ih (search.perform engine operation).value.search

/-- What is asked later is asked of the search that is left, if one is. -/
theorem follow_append (search : Search) (uses later : List Use) :
    search.follow (uses ++ later) =
      match (search.follow uses).2 with
      | .ok last =>
        ((search.follow uses).1 ++ (last.follow later).1, (last.follow later).2)
      | .error error => ((search.follow uses).1, .error error) := by
  induction uses generalizing search with
  | nil => rfl
  | cons use rest ih =>
    cases use with
    | request =>
      rw [List.cons_append, follow, ih, follow]
      cases (search.follow rest).2 <;> rfl
    | move move =>
      rw [List.cons_append, follow_move, follow_move]
      cases search.after move with
      | ok next => exact ih next
      | error error => rfl

/-! ### What is left -/

/-- The moves that a run leaves make no outcome, and they end as the run does. -/
theorem run_residue (search : Search) (uses : List Use) :
    search.run (uses.flatMap Use.residue) = ([], (search.follow uses).2) := by
  induction uses generalizing search with
  | nil => rfl
  | cons use rest ih =>
    rw [List.flatMap_cons]
    cases use with
    | request => exact ih search
    | move move =>
      rw [follow_move]
      cases move with
      | edit change => exact ih (search.edit change)
      | step step =>
        have hleft : (Use.move (.step step)).residue = [.step step] := rfl
        rw [after, hleft, List.singleton_append, run]
        cases (search.step step).value with
        | ok next => exact ih next
        | error error => rfl
      | perform engine operation =>
        rw [after, search_perform, Use.residue, run_setId]
        exact ih (search.address operation)

theorem body_edit (search : Search) (change : Edit) :
    (search.edit change).options.body =
      (Use.move (.edit change)).body?.getD search.options.body := by
  cases change <;> rfl

/-- Only a change that is about the body changes it. -/
theorem body_after {move : Move} (h : search.after move = .ok next) :
    next.options.body = (Use.move move).body?.getD search.options.body := by
  cases move with
  | edit change =>
    cases h
    exact body_edit search change
  | step step =>
    obtain ⟨_, _, rfl⟩ := step_eq_ok_iff.mp h
    rfl
  | perform engine operation =>
    cases h
    rw [search_perform, address_eq]
    rfl

/-- The body of its own that a search has at the end is the one last set. -/
theorem body_follow {uses : List Use} (h : (search.follow uses).2 = .ok next) :
    next.options.body = (uses.filterMap Use.body?).getLastD search.options.body := by
  induction uses generalizing search with
  | nil =>
    cases h
    rfl
  | cons use rest ih =>
    cases use with
    | request => exact ih h
    | move move =>
      rw [follow_move] at h
      cases hafter : search.after move with
      | ok stepped =>
        rw [hafter] at h
        rw [ih h, body_after hafter, List.filterMap_cons]
        cases (Use.move move).body? with
        | none => rfl
        | some body => rw [List.getLastD_cons]; rfl
      | error error =>
        rw [hafter] at h
        cases h

/-- Whatever operations a run performs and whatever requests it asks for, it ends in the same
search, conditions, options and defaults, as the moves that it leaves; every request from then on is
the same as after those; and the body of the search's own is the one last set by a change. -/
theorem follow_residue (search : Search) (uses : List Use) :
    search.run (uses.flatMap Use.residue) = ([], (search.follow uses).2) ∧
      (∀ later, (search.follow (uses ++ later)).1 = (search.follow uses).1 ++
        (search.follow ((uses.flatMap Use.residue).map .move ++ later)).1) ∧
      ∀ last, (search.follow uses).2 = .ok last →
        last.options.body = (uses.filterMap Use.body?).getLastD search.options.body := by
  have hleft : search.follow ((uses.flatMap Use.residue).map .move) =
      ([], (search.follow uses).2) := by
    rw [follow_moves, run_residue]
  refine ⟨run_residue search uses, fun later => ?_, fun last h => body_follow h⟩
  rw [follow_append, follow_append, hleft]
  cases (search.follow uses).2 with
  | ok last => rfl
  | error error => exact (List.append_nil _).symm

/-- A body of the search's own, a lookup that brings an identifier, and an update and a count that
bring none. -/
def lookups : List Use :=
  [.move (.edit (.index "users")), .move (.edit (.body (.obj [("size", .ofNat 1)]))), .request,
    .move (.perform acknowledging (.find (some "7") none)),
    .move (.perform acknowledging (.update (.obj [("age", .ofNat 41)]) (some ""))),
    .move (.perform acknowledging .count)]

theorem follow_residue_lookups :
    lookups.flatMap Use.residue = [.edit (.index "users"),
      .edit (.body (.obj [("size", .ofNat 1)])), .edit (.id "7")] ∧
    ∃ last, ((start ⟨"_doc", .asc, true⟩).follow lookups).2 = .ok last ∧
      (start ⟨"_doc", .asc, true⟩).run (lookups.flatMap Use.residue) = ([], .ok last) ∧
      last.options.id = some "7" ∧
      last.options.body = some (.raw (.obj [("size", .ofNat 1)])) := by
  obtain ⟨hrun, _, hbody⟩ := follow_residue (start ⟨"_doc", .asc, true⟩) lookups
  exact ⟨rfl, _, rfl, hrun, rfl, hbody _ rfl⟩

end Search

end SearchQuery

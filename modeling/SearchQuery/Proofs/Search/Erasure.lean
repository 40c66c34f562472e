import SearchQuery.Proofs.Search.Independence
import SearchQuery.Proofs.Search.Reachable

/-! Runs without all that shapes a search. Conditions, pages, modes and the searches themselves can
be left out of a run: what is looked up and written comes to the same. Main statements:
`exchanges_filter`, `exchanges_eq_of_direct`. -/
namespace SearchQuery

/-- The changes that bear on the document addressed. -/
def Edit.targets : Edit → Bool
  | .index _ | .indexAndType _ _ | .docType _ | .id _ => true
  | _ => false

/-- The moves that address a document, look it up or write. All others shape a search or make it. -/
def Move.direct : Move → Bool
  | .edit change => change.targets
  | .step _ => false
  | .perform _ operation => !operation.searches

namespace Search

/-- What a run looks up and writes: the operations with their calls and answers. -/
def exchanges (search : Search) (moves : List Move) :
    List (Operation × List Call × Except Error Answer) :=
  ((search.trace moves).filter fun performed => !performed.1.searches).map fun performed =>
    (performed.1, performed.2.calls, performed.2.answer)

/-- Two searches that come to the same target by the same moves. -/
structure Alike (a b : Search) : Prop where
  target : SameTarget a b
  defaults : a.defaults = b.defaults

variable {a b next : Search}

theorem Alike.refl (a : Search) : Alike a a := ⟨⟨rfl, rfl, rfl, rfl⟩, rfl⟩

/-! ### One move -/

theorem Alike.edit (h : Alike a b) (change : Edit) : Alike (a.edit change) (b.edit change) := by
  obtain ⟨⟨hindex, hdocType, hid, hmerge⟩, hdefaults⟩ := h
  refine ⟨⟨?_, ?_, ?_, hmerge⟩, hdefaults⟩
  all_goals
    cases change <;>
      simp only [Search.edit, edited, hindex, hdocType, hid, hdefaults]

/-- A change that bears on the search alone leaves the target. -/
theorem Alike.edit_left (h : Alike a b) {change : Edit} (shapes : change.targets = false) :
    Alike (a.edit change) b := by
  obtain ⟨⟨hindex, hdocType, hid, hmerge⟩, hdefaults⟩ := h
  cases change with
  | index _ | indexAndType _ _ | docType _ | id _ => cases shapes
  | _ => exact ⟨⟨hindex, hdocType, hid, hmerge⟩, hdefaults⟩

theorem Alike.step_left (h : Alike a b) {step : Step} (added : (a.step step).value = .ok next) :
    Alike next b := by
  obtain ⟨_, _, rfl⟩ := step_eq_ok_iff.mp added
  exact ⟨⟨h.target.index, h.target.docType, h.target.id, h.target.merge⟩, h.defaults⟩

theorem Alike.perform (h : Alike a b) (engine : Engine) (operation : Operation) :
    Alike (a.perform engine operation).value.search (b.perform engine operation).value.search := by
  refine ⟨h.target.search_perform engine operation, ?_⟩
  rw [search_perform, search_perform, address_eq, address_eq]
  exact h.defaults

/-! ### Runs -/

theorem exchanges_perform_of_searches (search : Search) (engine : Engine) {operation : Operation}
    (searches : operation.searches = true) (rest : List Move) :
    search.exchanges (.perform engine operation :: rest) = search.exchanges rest := by
  rw [exchanges, trace, search_perform, search.address_of_searches searches,
    List.filter_cons_of_neg (by simp [searches])]
  rfl

theorem exchanges_perform_of_direct (search : Search) (engine : Engine) {operation : Operation}
    (direct : operation.searches = false) (rest : List Move) :
    search.exchanges (.perform engine operation :: rest) =
      (operation, (search.perform engine operation).value.calls,
        (search.perform engine operation).value.answer) ::
      (search.perform engine operation).value.search.exchanges rest := by
  rw [exchanges, trace, List.filter_cons_of_pos (by simp [direct])]
  rfl

/-- Without all that shapes a search, the lookups and the writes of a run make the same calls and
return the same, and the run ends at the same target. -/
theorem Alike.exchanges_filter (h : Alike a b) {moves : List Move}
    (hrun : (a.run moves).2 = .ok next) :
    a.exchanges moves = b.exchanges (moves.filter Move.direct) ∧
      ∃ last, (b.run (moves.filter Move.direct)).2 = .ok last ∧ Alike next last := by
  -- `a` goes through all the moves, `b` through the direct ones; they stay alike
  induction moves generalizing a b with
  | nil =>
    cases hrun
    exact ⟨rfl, b, rfl, h⟩
  | cons move rest ih =>
    cases move with
    | edit change =>
      cases htargets : change.targets with
      | true =>
        have hdirect : (Move.edit change).direct = true := htargets
        rw [List.filter_cons_of_pos hdirect]
        exact ih (h.edit change) hrun
      | false =>
        rw [List.filter_cons_of_neg (by simp [Move.direct, htargets])]
        exact ih (h.edit_left htargets) hrun
    | step step =>
      rw [List.filter_cons_of_neg (by simp [Move.direct])]
      cases hstep : (a.step step).value with
      | ok stepped =>
        simp only [run, exchanges, trace, hstep] at hrun ⊢
        exact ih (h.step_left hstep) hrun
      | error error =>
        simp only [run, hstep] at hrun
        cases hrun
    | perform engine operation =>
      cases hsearches : operation.searches with
      | true =>
        rw [List.filter_cons_of_neg (by simp [Move.direct, hsearches]),
          exchanges_perform_of_searches a engine hsearches]
        rw [run, search_perform, a.address_of_searches hsearches] at hrun
        exact ih h hrun
      | false =>
        obtain ⟨hcalls, hanswer⟩ := h.target.perform_eq engine hsearches
        obtain ⟨hrest, hlast⟩ := ih (h.perform engine operation) hrun
        rw [List.filter_cons_of_pos (by simp [Move.direct, hsearches]),
          exchanges_perform_of_direct a engine hsearches,
          exchanges_perform_of_direct b engine hsearches, hcalls, hanswer, hrest]
        exact ⟨rfl, hlast⟩

/-- Two runs that differ only in how they shape searches, and in which searches they make, look up
and write the same. -/
theorem exchanges_eq_of_direct {search last : Search} {moves others : List Move}
    (hmoves : (search.run moves).2 = .ok next) (hothers : (search.run others).2 = .ok last)
    (h : moves.filter Move.direct = others.filter Move.direct) :
    search.exchanges moves = search.exchanges others := by
  rw [((Alike.refl search).exchanges_filter hmoves).1, h,
    ((Alike.refl search).exchanges_filter hothers).1]

end Search

end SearchQuery

import SearchQuery.Proofs.Search.Call
import SearchQuery.Proofs.Search.Refusal

/-! One operation and the engine. What can be refused is refused before any call; after a call it is
the engine that decides, and its word is passed on. Main statement: `perform_exchange`. -/
namespace SearchQuery

/-- The operations that return the engine's reply as it is. -/
def Operation.returnsReply : Operation → Bool
  | .raw | .insert _ | .bulkInsert _ | .update _ _ | .delete _ => true
  | _ => false

theorem Error.OfChecks.refused {outcome : Outcome} {error : Error} (h : error.OfChecks)
    (answer : outcome.answer = .error error) : outcome.refused = true := by
  rw [Outcome.refused, answer]
  cases h <;> rfl

namespace Search

theorem read_of_returnsReply (search : Search) (reply : Json) {operation : Operation}
    (h : operation.returnsReply = true) : (search.read reply operation).value = .raw reply := by
  cases operation with
  | raw | insert _ | bulkInsert _ | update _ _ | delete _ => rfl
  | _ => cases h

/-- An operation makes one call at most, and none exactly when it is refused. After a call, a fault
of the engine comes back unchanged, and any reply at all makes the operation succeed. -/
theorem perform_exchange (search : Search) (engine : Engine) (operation : Operation) :
    let outcome := (search.perform engine operation).value
    outcome.calls.length ≤ 1 ∧ (outcome.calls = [] ↔ outcome.refused = true) ∧
      ∀ call ∈ outcome.calls,
        (∀ fault, engine call = .error fault → outcome.answer = .error (.transport fault)) ∧
        ∀ reply, engine call = .ok reply → ∃ answer, outcome.answer = .ok answer ∧
          (operation.returnsReply = true → answer = .raw reply) := by
  intro outcome
  obtain ⟨error, hcall, heq⟩ | ⟨call, fault, _, hfault, heq⟩ | ⟨call, reply, _, hreply, heq⟩ :=
    perform_cases search engine operation
  · have hrefused : outcome.refused = true :=
      (ofChecks_of_call hcall).refused (congrArg Outcome.answer heq)
    have hnone : outcome.calls = [] := congrArg Outcome.calls heq
    refine ⟨by simp [hnone], iff_of_true hnone hrefused, fun call hm => ?_⟩
    rw [hnone] at hm
    cases hm
  · have hone : outcome.calls = [call] := congrArg Outcome.calls heq
    have hanswer : outcome.answer = .error (.transport fault) := congrArg Outcome.answer heq
    have hrefused : outcome.refused = false := by rw [Outcome.refused, hanswer]
    refine ⟨by simp [hone], by simp [hone, hrefused], fun made hm => ?_⟩
    obtain rfl := List.mem_singleton.mp (hone ▸ hm)
    refine ⟨fun other hother => ?_, fun reply hreply => ?_⟩
    · cases hfault.symm.trans hother
      exact hanswer
    · cases hfault.symm.trans hreply
  · have hone : outcome.calls = [call] := congrArg Outcome.calls heq
    have hanswer : outcome.answer =
        .ok ((search.address operation).read reply operation).value :=
      congrArg Outcome.answer heq
    have hrefused : outcome.refused = false := by rw [Outcome.refused, hanswer]
    refine ⟨by simp [hone], by simp [hone, hrefused], fun made hm => ?_⟩
    obtain rfl := List.mem_singleton.mp (hone ▸ hm)
    refine ⟨fun fault hfault => ?_, fun other hother => ?_⟩
    · cases hreply.symm.trans hfault
    · cases hreply.symm.trans hother
      exact ⟨_, hanswer, read_of_returnsReply _ reply⟩

end Search

end SearchQuery

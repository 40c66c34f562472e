import SearchQuery.Proofs.Reply.Results
import SearchQuery.Proofs.Search.Call

/-! Searches that are answered. To count is to ask for results and to keep their total, and merging
does not enter into it. Main statements: `answer_of_call`, `answer_count_iff`. -/
namespace SearchQuery.Search

variable {search : Search} {engine : Engine} {call : Call} {reply : Json}

/-- Once its call is made, an operation comes to what the engine makes of it. -/
theorem answer_of_call (engine : Engine) (operation : Operation)
    (h : ((search.address operation).call operation).value = .ok call) :
    (search.perform engine operation).value.answer =
      match engine call with
      | .error fault => .error (.transport fault)
      | .ok reply => .ok ((search.address operation).read reply operation).value := by
  rw [perform, Logged.value_bind, h]
  simp only
  cases engine call <;> rfl

theorem answer_results (hcall : search.callSearch.value = .ok call)
    (hreply : engine call = .ok reply) (merge : Option Bool) :
    (search.perform engine (.results merge)).value.answer =
      .ok (.results (Reply.results reply (merge.getD search.defaults.mergeSource)).value) := by
  rw [answer_of_call engine (.results merge) hcall, hreply]
  rfl

theorem answer_count (hcall : search.callSearch.value = .ok call)
    (hreply : engine call = .ok reply) :
    (search.perform engine .count).value.answer =
      .ok (.count (Reply.results reply false).value.total) := by
  rw [answer_of_call engine .count hcall, hreply]
  rfl

/-- A count is the total of the results that the same search would return, merged or not. -/
theorem answer_count_iff (merge : Option Bool) (n : Nat) :
    (search.perform engine .count).value.answer = .ok (.count n) ↔
      ∃ results, (search.perform engine (.results merge)).value.answer = .ok (.results results) ∧
        results.total = n := by
  cases hcall : search.callSearch.value with
  | error error =>
    have hcount : (search.perform engine .count).value = ⟨search, [], .error error⟩ :=
      perform_of_call_error hcall
    have hresults : (search.perform engine (.results merge)).value =
        ⟨search, [], .error error⟩ := perform_of_call_error hcall
    simp [hcount, hresults]
  | ok call =>
    have hcount := answer_of_call engine .count hcall
    have hresults := answer_of_call engine (.results merge) hcall
    cases hreply : engine call with
    | error fault =>
      rw [hreply] at hcount hresults
      simp [hcount, hresults]
    | ok reply =>
      have htotal := Reply.total_results reply false (merge.getD search.defaults.mergeSource)
      rw [answer_count hcall hreply, answer_results hcall hreply, htotal]
      simp

end SearchQuery.Search

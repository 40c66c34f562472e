import SearchQuery.Proofs.Request.Assembly
import SearchQuery.Proofs.Search.Run

/-! What an operation asks of the engine once its identifier is set, and which errors keep it from
asking. All that is proved of the calls of a search rests on this. Main statements:
`call_eq_ok_iff`, `ofChecks_of_call`, `mem_calls_iff`. -/
namespace SearchQuery

/-- The operations that search. All others address one document or write. -/
def Operation.searches : Operation → Bool
  | .raw | .results _ | .first _ | .count => true
  | _ => false

/-- The rows that an operation writes in bulk. -/
def Operation.rows? : Operation → Option (List Json)
  | .insert (.arr rows) | .bulkInsert rows => some rows
  | _ => none

/-- The errors of an operation's own checks. -/
inductive Error.OfChecks : Error → Prop
  | indexMissing : OfChecks .indexMissing
  | idMissing (task : Task) : OfChecks (.idMissing task)
  | nothingToWrite (task : Task) : OfChecks (.nothingToWrite task)
  | modesConflict (collapse groupBy : String) : OfChecks (.modesConflict collapse groupBy)

namespace Search

/-- What an operation asks for, and what it needs to have for it. -/
inductive Asks (search : Search) : Operation → Call → Prop
  | search {operation : Operation} {request : Request} (searches : operation.searches = true)
      (made : search.request.value = .ok request) : Asks search operation (.search request)
  | find {given : Option String} {merge : Option Bool} {id : String}
      (index : search.options.index ≠ "") (set : search.options.id = some id) :
      Asks search (.find given merge)
        (.get ⟨search.options.index, search.options.docType, some id, none⟩)
  | insert {members : List (String × Json)} (index : search.options.index ≠ "")
      (something : members ≠ []) :
      Asks search (.insert (.obj members))
        (.index ⟨search.options.index, search.options.docType, search.options.id,
          some (.obj members)⟩)
  | bulk {operation : Operation} {rows : List Json} (index : search.options.index ≠ "")
      (given : operation.rows? = some rows) (something : rows ≠ []) :
      Asks search operation
        (.bulk (.ofRows search.options.index search.options.docType rows))
  | update {document : Json} {given : Option String} {id : String}
      (index : search.options.index ≠ "") (set : search.options.id = some id)
      (something : document.isEmpty = false) :
      Asks search (.update document given)
        (.update ⟨search.options.index, search.options.docType, some id,
          some (.single "doc" document)⟩)
  | delete {given : Option String} {id : String} (index : search.options.index ≠ "")
      (set : search.options.id = some id) :
      Asks search (.delete given)
        (.delete ⟨search.options.index, search.options.docType, some id, none⟩)

variable {search : Search} {operation : Operation} {call : Call} {error : Error}

/-! ### The parts of a call -/

theorem value_send (event : Request → Event) (call : Request → Call)
    (request : Logged Event (Except Error Request)) :
    (send event call request).value = request.value.map call := by
  rw [send, Logged.value_bind]
  cases request.value <;> rfl

theorem requestFor_ok (task : Task) (body : Body) {id : String} (index : search.options.index ≠ "")
    (set : search.options.id = some id) :
    (search.requestFor task body).value =
      .ok ⟨search.options.index, search.options.docType, some id, body.sent?⟩ := by
  rw [requestFor, Logged.value_bind, Logged.value_pure, Options.requestWith_named index, set]
  rfl

/-- A request for one document needs an index and an identifier, and nothing else. -/
theorem requestFor_cases (search : Search) (task : Task) (body : Body) :
    (∃ error, (search.requestFor task body).value = .error error ∧ error.OfChecks) ∨
    ∃ id, search.options.index ≠ "" ∧ search.options.id = some id := by
  by_cases index : search.options.index = ""
  · left
    rw [requestFor, Logged.value_bind, Logged.value_pure, Options.requestWith_indexMissing index]
    exact ⟨_, rfl, .indexMissing⟩
  cases set : search.options.id with
  | none =>
    left
    rw [requestFor, Logged.value_bind, Logged.value_pure, Options.requestWith_named index, set]
    exact ⟨_, rfl, .idMissing task⟩
  | some id => exact .inr ⟨id, index, rfl⟩

theorem callSearch_cases (search : Search) :
    (∃ error, search.callSearch.value = .error error ∧ error.OfChecks) ∨
      ∃ request, search.request.value = .ok request := by
  rw [callSearch, value_send, Search.request]
  obtain ⟨_, h⟩ | ⟨collapse, groupBy, _, _, _, h⟩ | ⟨_, _, _, _, h⟩ | ⟨_, _, h⟩ :=
    search.options.request_cases search.conditions
  · exact .inl ⟨_, congrArg _ h, .indexMissing⟩
  · exact .inl ⟨_, congrArg _ h, .modesConflict collapse groupBy⟩
  · exact .inr ⟨_, h⟩
  · exact .inr ⟨_, h⟩

theorem callBulk_ok {rows : List Json} (index : search.options.index ≠ "") (something : rows ≠ []) :
    (search.callBulk rows).value =
      .ok (.bulk (.ofRows search.options.index search.options.docType rows)) := by
  rw [callBulk, if_neg (mt List.isEmpty_iff.mp something), if_neg (mt String.isEmpty_iff.mp index)]
  rfl

theorem callBulk_cases (search : Search) (rows : List Json) :
    (∃ error, (search.callBulk rows).value = .error error ∧ error.OfChecks) ∨
      search.options.index ≠ "" ∧ rows ≠ [] := by
  by_cases something : rows = []
  · left
    rw [callBulk, if_pos (List.isEmpty_iff.mpr something)]
    exact ⟨_, rfl, .nothingToWrite .bulkInsert⟩
  by_cases index : search.options.index = ""
  · left
    rw [callBulk, if_neg (mt List.isEmpty_iff.mp something), if_pos (String.isEmpty_iff.mpr index)]
    exact ⟨_, rfl, .indexMissing⟩
  exact .inr ⟨index, something⟩

/-! ### The call of an operation -/

theorem call_of_searches (search : Search) (h : operation.searches = true) :
    search.call operation = search.callSearch := by
  cases operation with
  | raw | results _ | first _ | count => rfl
  | _ => cases h

/-- What an operation asks for, it comes to. -/
theorem call_of_asks (h : search.Asks operation call) :
    (search.call operation).value = .ok call := by
  cases h with
  | @search _ request searches made =>
    rw [search.call_of_searches searches, callSearch, value_send, made]
    rfl
  | find index set =>
    rw [Search.call, callFind, value_send, requestFor_ok .find .suppressed index set]
    rfl
  | @insert members index something =>
    obtain ⟨member, rest, rfl⟩ := List.exists_cons_of_ne_nil something
    rw [Search.call, callInsert, value_send, Options.requestWith_named index]
    rfl
  | @bulk _ rows index given something =>
    unfold Operation.rows? at given
    split at given
    · cases given
      exact callBulk_ok index something
    · cases given
      exact callBulk_ok index something
    · cases given
  | @update document _ id index set something =>
    rw [Search.call, callUpdate, something, if_neg Bool.false_ne_true, value_send,
      requestFor_ok .update _ index set]
    rfl
  | delete index set =>
    rw [Search.call, callDelete, value_send, requestFor_ok .delete .suppressed index set]
    rfl

theorem callInsert_cases (search : Search) (document : Json) :
    (∃ error, (search.callInsert document).value = .error error ∧ error.OfChecks) ∨
      ∃ call, search.Asks (.insert document) call := by
  cases document with
  | arr rows =>
    obtain ⟨error, h, checks⟩ | ⟨index, something⟩ := search.callBulk_cases rows
    · exact .inl ⟨error, h, checks⟩
    · exact .inr ⟨_, .bulk index rfl something⟩
  | obj members =>
    cases members with
    | nil => exact .inl ⟨_, rfl, .nothingToWrite .insert⟩
    | cons member rest =>
      by_cases index : search.options.index = ""
      · rw [callInsert, value_send, Options.requestWith_indexMissing index]
        exact .inl ⟨_, rfl, .indexMissing⟩
      · exact .inr ⟨_, .insert index (List.cons_ne_nil member rest)⟩
  | _ => exact .inl ⟨_, rfl, .nothingToWrite .insert⟩

theorem callUpdate_cases (search : Search) (document : Json) (given : Option String) :
    (∃ error, (search.callUpdate document).value = .error error ∧ error.OfChecks) ∨
      ∃ call, search.Asks (.update document given) call := by
  cases something : document.isEmpty with
  | true =>
    rw [callUpdate, something, if_pos rfl]
    exact .inl ⟨_, rfl, .nothingToWrite .update⟩
  | false =>
    obtain ⟨error, h, checks⟩ | ⟨id, index, set⟩ :=
      search.requestFor_cases .update (.raw (.single "doc" document))
    · rw [callUpdate, something, if_neg Bool.false_ne_true, value_send, h]
      exact .inl ⟨error, rfl, checks⟩
    · exact .inr ⟨_, .update index set something⟩

/-- Either one of its own checks fails an operation, or it asks for a call. -/
theorem call_cases (search : Search) (operation : Operation) :
    (∃ error, (search.call operation).value = .error error ∧ error.OfChecks) ∨
      ∃ call, search.Asks operation call := by
  cases operation with
  | raw | results _ | first _ | count =>
    obtain ⟨error, h, checks⟩ | ⟨request, made⟩ := search.callSearch_cases
    · exact .inl ⟨error, h, checks⟩
    · exact .inr ⟨_, .search rfl made⟩
  | find given merge =>
    obtain ⟨error, h, checks⟩ | ⟨id, index, set⟩ := search.requestFor_cases .find .suppressed
    · rw [Search.call, callFind, value_send, h]
      exact .inl ⟨error, rfl, checks⟩
    · exact .inr ⟨_, .find index set⟩
  | insert document => exact search.callInsert_cases document
  | bulkInsert rows =>
    obtain ⟨error, h, checks⟩ | ⟨index, something⟩ := search.callBulk_cases rows
    · exact .inl ⟨error, h, checks⟩
    · exact .inr ⟨_, .bulk index rfl something⟩
  | update document given => exact search.callUpdate_cases document given
  | delete given =>
    obtain ⟨error, h, checks⟩ | ⟨id, index, set⟩ := search.requestFor_cases .delete .suppressed
    · rw [Search.call, callDelete, value_send, h]
      exact .inl ⟨error, rfl, checks⟩
    · exact .inr ⟨_, .delete index set⟩

theorem call_eq_ok_iff : (search.call operation).value = .ok call ↔ search.Asks operation call := by
  refine ⟨fun h => ?_, call_of_asks⟩
  obtain ⟨error, herror, _⟩ | ⟨other, hother⟩ := search.call_cases operation
  · rw [herror] at h
    cases h
  · rw [call_of_asks hother] at h
    cases h
    exact hother

/-- Only its own checks keep an operation from asking. -/
theorem ofChecks_of_call (h : (search.call operation).value = .error error) : error.OfChecks := by
  obtain ⟨other, hother, checks⟩ | ⟨call, hcall⟩ := search.call_cases operation
  · rw [hother] at h
    cases h
    exact checks
  · rw [call_of_asks hcall] at h
    cases h

/-! ### Calls made -/

theorem perform_of_call_error {engine : Engine}
    (h : ((search.address operation).call operation).value = .error error) :
    (search.perform engine operation).value = ⟨search.address operation, [], .error error⟩ := by
  rw [perform, Logged.value_bind, h]
  rfl

theorem calls_of_call_ok {engine : Engine}
    (h : ((search.address operation).call operation).value = .ok call) :
    (search.perform engine operation).value.calls = [call] := by
  rw [perform, Logged.value_bind, h]
  simp only
  cases engine call <;> rfl

/-- The calls that an operation makes are those that it asks for, its identifier being set. -/
theorem mem_calls_iff {engine : Engine} :
    call ∈ (search.perform engine operation).value.calls ↔
      (search.address operation).Asks operation call := by
  rw [← call_eq_ok_iff]
  cases h : ((search.address operation).call operation).value with
  | error error => simp [perform_of_call_error h]
  | ok made => simp [calls_of_call_ok h, eq_comm]

theorem calls_of_asks {engine : Engine} (h : (search.address operation).Asks operation call) :
    (search.perform engine operation).value.calls = [call] :=
  calls_of_call_ok (call_of_asks h)

end Search

end SearchQuery

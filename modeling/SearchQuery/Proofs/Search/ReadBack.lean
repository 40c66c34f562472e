import SearchQuery.Proofs.Search.Call
import SearchQuery.Proofs.Search.Reachable
import SearchQuery.Proofs.Search.Refusal

/-! Requests read back from their own JSON. Null under a name is read as nothing, so a request can be
read back unless its body is null, and no search comes to such a body. Main statements:
`Request.written_eq_toJson`, `Request.readsBack_iff`, `readsBack_of_run`. -/
namespace SearchQuery

/-! ### Requests and their JSON -/

namespace Request

variable {request : Request}

/-- Both ways of writing a request agree, and what they write is read as the request again. -/
structure ReadsBack (request : Request) : Prop where
  written : request.written = request.toJson
  read : ofJson? request.toJson = some request

/-- Part by part or by hand, a request is written alike. -/
theorem written_eq_toJson (request : Request) : request.written = request.toJson := by
  obtain ⟨index, docType, id, body⟩ := request
  cases id <;> cases body <;> rfl

theorem optionalValue_eq_some {value : Json} (h : value ≠ .null) :
    optionalValue (some value) = some value := by
  cases value with
  | null => exact absurd rfl h
  | _ => rfl

theorem optionalValue_ne_null (part : Option Json) : optionalValue part ≠ some .null := by
  match part with
  | none | some .null => exact nofun
  | some (.bool _) | some (.num _) | some (.str _) | some (.arr _) | some (.obj _) =>
    exact fun h => nomatch h

/-- A body of null is taken for none; any other request is read as it was. -/
theorem readsBack_iff : request.ReadsBack ↔ request.body ≠ some .null := by
  obtain ⟨index, docType, id, body⟩ := request
  constructor
  · rintro ⟨_, hread⟩ rfl
    cases id <;> cases hread
  · intro hbody
    refine ⟨written_eq_toJson _, ?_⟩
    cases body with
    | none => cases id <;> rfl
    | some value =>
      have hvalue : optionalValue (some value) = some value :=
        optionalValue_eq_some fun hnull => hbody (congrArg some hnull)
      cases id <;>
        simp [toJson, ofJson?, Entries.get?, ofParts?, optionalText?, hvalue]

theorem body_of_ofParts? {index docType : Json} {id body : Option Json}
    (h : ofParts? index docType id body = some request) : request.body ≠ some .null := by
  unfold ofParts? at h
  split at h
  · cases h
    exact optionalValue_ne_null body
  · cases h

/-- No request that is read has null for its body. -/
theorem readsBack_of_ofJson? {json : Json} (h : ofJson? json = some request) :
    request.ReadsBack := by
  rw [readsBack_iff]
  unfold ofJson? at h
  split at h
  · obtain ⟨index, _, h⟩ := Option.bind_eq_some_iff.mp h
    obtain ⟨docType, _, h⟩ := Option.bind_eq_some_iff.mp h
    exact body_of_ofParts? h
  · exact body_of_ofParts? h
  · exact body_of_ofParts? h
  · exact body_of_ofParts? h
  · cases h

end Request

/-! ### Bodies of searches -/

/-- A body that is set from a value is never null. -/
theorem Body.sent?_ne_null {value : Json} {body : Body} (h : ofValue? value = some body) :
    body.sent? ≠ some .null := by
  unfold ofValue? at h
  split at h
  case h_3 =>
    -- of a value that is neither an object nor an array, nothing is sent
    split at h
    · cases h
      exact nofun
    · cases h
  all_goals
    split at h
    · cases h
    · cases h
      exact nofun

namespace Options

variable {options : Options} {conditions : ConditionSet} {request : Request}

/-- Whatever the options send for a body of their own, it is not null. -/
def NoNullBody (options : Options) : Prop :=
  ∀ body, options.body = some body → body.sent? ≠ some .null

theorem NoNullBody.searchBody (h : options.NoNullBody) (query : Json) :
    options.searchBody query ≠ some .null := by
  unfold Options.searchBody
  cases hbody : options.body with
  | none => exact nofun
  | some body => exact h body hbody

theorem NoNullBody.of_request (h : options.NoNullBody)
    (made : (options.request conditions).value = .ok request) : request.body ≠ some .null := by
  obtain ⟨_, heq⟩ | ⟨_, _, _, _, _, heq⟩ | ⟨_, _, _, _, heq⟩ | ⟨_, _, heq⟩ :=
    options.request_cases conditions
  all_goals
    rw [heq] at made
    cases made
  · exact nofun
  · exact h.searchBody _

end Options

/-! ### Requests of runs -/

/-- The request that a call sends, unless it sends rows in bulk. -/
def Call.request? : Call → Option Request
  | .search request | .get request | .index request | .update request | .delete request =>
    some request
  | .bulk _ => none

namespace Search

variable {search : Search} {request : Request}

theorem noNullBody_edit (h : search.options.NoNullBody) (change : Edit) :
    (search.edit change).options.NoNullBody := by
  intro body set
  cases change with
  | body value => exact Body.sent?_ne_null set
  | suppressBody =>
    cases set
    exact nofun
  | _ => exact h body set

/-- No reachable search has null for its body. -/
theorem Reachable.noNullBody (h : search.Reachable) : search.options.NoNullBody := by
  induction h with
  | start defaults => exact nofun
  | edit _ change ih => exact noNullBody_edit ih change
  | step _ added ih =>
    obtain ⟨_, _, rfl⟩ := step_eq_ok_iff.mp added
    exact ih
  | perform _ engine operation ih =>
    rw [search_perform, address_eq]
    exact ih

/-- What an operation asks for sends null only where the options do. -/
theorem Asks.body_ne_null {operation : Operation} {call : Call} (h : search.Asks operation call)
    (own : search.options.NoNullBody) (hr : call.request? = some request) :
    request.body ≠ some .null := by
  cases h with
  | search _ made =>
    cases hr
    exact own.of_request made
  | bulk _ _ _ => cases hr
  | find _ _ | insert _ _ | update _ _ _ | delete _ _ =>
    cases hr
    exact nofun

theorem Reachable.readsBack {engine : Engine} {operation : Operation} {call : Call}
    (h : search.Reachable) (hc : call ∈ (search.perform engine operation).value.calls)
    (hr : call.request? = some request) : request.ReadsBack := by
  have hnext := (h.perform engine operation).noNullBody
  rw [search_perform] at hnext
  exact Request.readsBack_iff.mpr ((mem_calls_iff.mp hc).body_ne_null hnext hr)

/-- The request that a run ends with, if it makes one, every request that it sends, and every
request that is read from any value, is read back from what either way of writing makes of it. -/
theorem readsBack_of_run (defaults : Defaults) (moves : List Move) :
    (∀ search, ((start defaults).run moves).2 = .ok search →
      ∀ request, search.request.value = .ok request → request.ReadsBack) ∧
    (∀ performed ∈ (start defaults).trace moves, ∀ call ∈ performed.2.calls,
      ∀ request, call.request? = some request → request.ReadsBack) ∧
    ∀ json request, Request.ofJson? json = some request → request.ReadsBack := by
  obtain ⟨htrace, hend⟩ := (Reachable.start defaults).run moves
  refine ⟨fun search hrun request made => ?_, fun performed hm call hc request hr => ?_,
    fun json request hread => Request.readsBack_of_ofJson? hread⟩
  · exact Request.readsBack_iff.mpr ((hend search hrun).noNullBody.of_request made)
  · obtain ⟨before, engine, hbefore, heq⟩ := htrace performed hm
    rw [heq] at hc
    exact hbefore.readsBack hc hr

/-- An update with a document whose one member is null, under options that send no body. -/
def clearingMoves : List Move :=
  [.edit (.index "users"), .edit (.id "7"), .edit (.body (.bool true)),
    .perform acknowledging (.update (.obj [("name", .null)]) none)]

theorem readsBack_of_run_clearingMoves :
    (∃ search, ((start ⟨"_doc", .asc, true⟩).run clearingMoves).2 = .ok search ∧
      search.request.value = .ok ⟨"users", "_doc", some "7", none⟩ ∧
      Request.ReadsBack ⟨"users", "_doc", some "7", none⟩) ∧
    (∃ performed ∈ (start ⟨"_doc", .asc, true⟩).trace clearingMoves,
      performed.2.calls = [.update ⟨"users", "_doc", some "7",
        some (.obj [("doc", .obj [("name", .null)])])⟩] ∧
      Request.ReadsBack ⟨"users", "_doc", some "7",
        some (.obj [("doc", .obj [("name", .null)])])⟩) ∧
    Request.ofJson? (.arr [.str "users", .str "_doc", .null, .null]) =
      some ⟨"users", "_doc", none, none⟩ ∧
    Request.ReadsBack ⟨"users", "_doc", none, none⟩ := by
  obtain ⟨hend, hsent, hread⟩ := readsBack_of_run ⟨"_doc", .asc, true⟩ clearingMoves
  exact ⟨⟨_, rfl, rfl, hend _ rfl _ rfl⟩,
    ⟨_, .head _, rfl, hsent _ (.head _) _ (.head _) _ rfl⟩, rfl,
    hread (.arr [.str "users", .str "_doc", .null, .null]) _ rfl⟩

end Search

end SearchQuery

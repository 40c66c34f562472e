import SearchQuery.Proofs.Condition.Reachable
import SearchQuery.Proofs.Search.Call
import SearchQuery.Proofs.Search.Refusal

/-! Lookups and writes do not depend on the search that is being built. Of all its options they
read the index, the document type and the identifier, so that they work in a search whose own
request would be refused. Main statement: `perform_of_sameTarget`. -/
namespace SearchQuery.Search

/-- Two searches that address the same document, and merge its source alike. -/
structure SameTarget (a b : Search) : Prop where
  index : a.options.index = b.options.index
  docType : a.options.docType = b.options.docType
  id : a.options.id = b.options.id
  merge : a.defaults.mergeSource = b.defaults.mergeSource

/-- Whatever has something to write is sent, to the document of the identifier that is given with it
or was set before. -/
structure CanWrite (search : Search) (engine : Engine) : Prop where
  insert (members : List (String × Json)) (something : members ≠ []) :
    (search.perform engine (.insert (.obj members))).value.calls =
      [.index ⟨search.options.index, search.options.docType, search.options.id,
        some (.obj members)⟩]
  bulkInsert (rows : List Json) (something : rows ≠ []) :
    (search.perform engine (.bulkInsert rows)).value.calls =
      [.bulk (.ofRows search.options.index search.options.docType rows)]
  update (document : Json) (given : Option String) (id : String)
    (something : document.isEmpty = false)
    (set : (given.bind nonEmpty?).or search.options.id = some id) :
    (search.perform engine (.update document given)).value.calls =
      [.update ⟨search.options.index, search.options.docType, some id,
        some (.obj [("doc", document)])⟩]
  delete (given : Option String) (id : String)
    (set : (given.bind nonEmpty?).or search.options.id = some id) :
    (search.perform engine (.delete given)).value.calls =
      [.delete ⟨search.options.index, search.options.docType, some id, none⟩]

theorem canWrite {search : Search} (index : search.options.index ≠ "") (engine : Engine) :
    search.CanWrite engine where
  insert members something := calls_of_asks (.insert index something)
  bulkInsert rows something := calls_of_asks (.bulk index rfl something)
  update document given id something set := by
    refine calls_of_asks ?_
    rw [address_eq]
    exact .update index set something
  delete given id set := by
    refine calls_of_asks ?_
    rw [address_eq]
    exact .delete index set

namespace SameTarget

variable {a b : Search}

theorem address (h : SameTarget a b) (operation : Operation) :
    SameTarget (a.address operation) (b.address operation) := by
  rw [address_eq, address_eq]
  exact ⟨h.index, h.docType, congrArg operation.id?.or h.id, h.merge⟩

theorem requestWith_eq (h : SameTarget a b) (body : Body) :
    a.options.requestWith body = b.options.requestWith body := by
  simp only [Options.requestWith, Options.target, h.index, h.docType, h.id]

theorem requestFor_eq (h : SameTarget a b) (task : Task) (body : Body) :
    a.requestFor task body = b.requestFor task body := by
  rw [requestFor, requestFor, h.requestWith_eq]

theorem callBulk_eq (h : SameTarget a b) (rows : List Json) :
    a.callBulk rows = b.callBulk rows := by
  rw [callBulk, callBulk, h.index, h.docType]

/-- Only a search depends on more than the target. -/
theorem call_eq (h : SameTarget a b) {operation : Operation}
    (direct : operation.searches = false) : a.call operation = b.call operation := by
  cases operation with
  | find given merge => exact congrArg (send _ _) (h.requestFor_eq .find .suppressed)
  | insert document =>
    cases document with
    | arr rows => exact h.callBulk_eq rows
    | obj members =>
      cases members with
      | nil => rfl
      | cons member rest => exact congrArg (send _ _) (h.requestWith_eq _)
    | _ => rfl
  | bulkInsert rows => exact h.callBulk_eq rows
  | update document given =>
    rw [Search.call, Search.call, callUpdate, callUpdate, h.requestFor_eq]
  | delete given => exact congrArg (send _ _) (h.requestFor_eq .delete .suppressed)
  | _ => cases direct

theorem read_eq (h : SameTarget a b) (reply : Json) (operation : Operation) :
    a.read reply operation = b.read reply operation := by
  cases operation <;> simp only [Search.read, h.merge]

theorem perform_eq (h : SameTarget a b) (engine : Engine) {operation : Operation}
    (direct : operation.searches = false) :
    (a.perform engine operation).value.calls = (b.perform engine operation).value.calls ∧
      (a.perform engine operation).value.answer = (b.perform engine operation).value.answer := by
  have htarget := h.address operation
  rw [perform, perform, Logged.value_bind, Logged.value_bind, htarget.call_eq direct]
  cases ((b.address operation).call operation).value with
  | error error => exact ⟨rfl, rfl⟩
  | ok call =>
    simp only
    cases engine call with
    | error fault => exact ⟨rfl, rfl⟩
    | ok reply =>
      refine ⟨rfl, ?_⟩
      simp only [Logged.value_bind, Logged.value_pure, htarget.read_eq]

theorem search_perform (h : SameTarget a b) (engine : Engine) (operation : Operation) :
    SameTarget (a.perform engine operation).value.search
      (b.perform engine operation).value.search := by
  rw [Search.search_perform, Search.search_perform]
  exact h.address operation

end SameTarget

theorem address_of_searches (search : Search) {operation : Operation}
    (searches : operation.searches = true) : search.address operation = search := by
  cases operation with
  | raw | results _ | first _ | count => rfl
  | _ => cases searches

/-- Where both modes are set, no search comes to a call. -/
theorem perform_of_conflict {search : Search} {collapse groupBy : String}
    (index : search.options.index ≠ "") (hcollapse : search.options.collapse = some collapse)
    (hgroup : search.options.groupBy = some groupBy) (engine : Engine) {operation : Operation}
    (searches : operation.searches = true) :
    (search.perform engine operation).value =
      ⟨search, [], .error (.modesConflict collapse groupBy)⟩ := by
  have haddress := search.address_of_searches searches
  have hcall : ((search.address operation).call operation).value =
      .error (.modesConflict collapse groupBy) := by
    rw [haddress, search.call_of_searches searches, callSearch, value_send, Search.request,
      Options.request_conflict index hcollapse hgroup]
    rfl
  rw [perform_of_call_error hcall, haddress]

/-- Whatever does not search makes the same calls on searches of the same target, and returns the
same. Where both modes are set, every search is refused and documents can still be written. -/
theorem perform_of_sameTarget {a b : Search} (h : SameTarget a b) (engine : Engine) :
    (∀ operation : Operation, operation.searches = false →
      (a.perform engine operation).value.calls = (b.perform engine operation).value.calls ∧
      (a.perform engine operation).value.answer = (b.perform engine operation).value.answer ∧
      SameTarget (a.perform engine operation).value.search
        (b.perform engine operation).value.search) ∧
    ∀ collapse groupBy, a.options.index ≠ "" → a.options.collapse = some collapse →
      a.options.groupBy = some groupBy →
        (∀ operation : Operation, operation.searches = true →
          (a.perform engine operation).value =
            ⟨a, [], .error (.modesConflict collapse groupBy)⟩) ∧
        a.CanWrite engine := by
  constructor
  · intro operation direct
    obtain ⟨hcalls, hanswer⟩ := h.perform_eq engine direct
    exact ⟨hcalls, hanswer, h.search_perform engine operation⟩
  · intro collapse groupBy index hcollapse hgroup
    refine ⟨fun operation searches => ?_, canWrite index engine⟩
    exact perform_of_conflict index hcollapse hgroup engine searches

/-- A search of users with conditions and a page, collapsed and grouped at once. -/
def crossed : Search :=
  { ((users.edit (.page 40 20)).edit (.collapse "email")).edit (.groupBy "city") with
    conditions := .romans }

theorem perform_of_sameTarget_crossed :
    SameTarget crossed users ∧
    (crossed.perform acknowledging .count).value =
      ⟨crossed, [], .error (.modesConflict "email" "city")⟩ ∧
    (crossed.perform acknowledging (.insert (.obj [("name", .str "ann")]))).value.calls =
      (users.perform acknowledging (.insert (.obj [("name", .str "ann")]))).value.calls ∧
    (crossed.perform acknowledging (.delete (some "7"))).value.calls =
      [.delete ⟨"users", "_doc", some "7", none⟩] := by
  have htarget : SameTarget crossed users := ⟨rfl, rfl, rfl, rfl⟩
  obtain ⟨hsame, hconflict⟩ := perform_of_sameTarget htarget acknowledging
  have hindex : crossed.options.index ≠ "" := by decide
  obtain ⟨hrefused, hwrite⟩ := hconflict "email" "city" hindex rfl rfl
  exact ⟨htarget, hrefused .count rfl, (hsame _ rfl).1, hwrite.delete (some "7") "7" rfl⟩

end SearchQuery.Search

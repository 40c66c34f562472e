import SearchQuery.Proofs.Request.Bulk
import SearchQuery.Proofs.Search.Call
import SearchQuery.Proofs.Search.Reachable
import SearchQuery.Proofs.Search.Refusal

/-! Calls that are safe to make. They name their index, those for one document name it too, and
those that write have something to write. Main statement: `safe_of_mem_trace`, every call of every
run is safe. -/
namespace SearchQuery

theorem Json.ne_of_isEmpty_eq_false {json : Json} (h : json.isEmpty = false) :
    json ≠ .null ∧ json ≠ .str "" ∧ json ≠ .arr [] ∧ json ≠ .obj [] := by
  refine ⟨?_, ?_, ?_, ?_⟩
  all_goals
    rintro rfl
    cases h

/-- A request for one document, which it names. -/
def Request.Addressed (request : Request) : Prop := ∃ id, request.id = some id ∧ id ≠ ""

/-- What may be asked of the engine. A bulk request has to do with the rows of its operation. -/
def Call.Safe (operation : Operation) : Call → Prop
  | .search request => request.index ≠ ""
  | .get request | .delete request =>
    request.index ≠ "" ∧ request.Addressed ∧ request.body = none
  | .update request =>
    request.index ≠ "" ∧ request.Addressed ∧
      ∃ document, request.body = some (.obj [("doc", document)]) ∧
        document ≠ .null ∧ document ≠ .str "" ∧ document ≠ .arr [] ∧ document ≠ .obj []
  | .index request =>
    request.index ≠ "" ∧ (∀ id, request.id = some id → id ≠ "") ∧
      ∃ members, request.body = some (.obj members) ∧ members ≠ []
  | .bulk sent =>
    sent.body ≠ [] ∧ sent.body.length % 2 = 0 ∧
      ∃ rows, operation.rows? = some rows ∧ Bulk.Alternates rows sent.body

namespace Search

variable {search : Search}

/-- Without an empty identifier, an operation asks for nothing that is not safe. -/
theorem Asks.safe {operation : Operation} {call : Call} (h : search.Asks operation call)
    (hid : ∀ id, search.options.id = some id → id ≠ "") : call.Safe operation := by
  cases h with
  | search _ made =>
    obtain ⟨hindex, hne⟩ := Options.index_of_request made
    exact fun hempty => hne (hindex.symm.trans hempty)
  | find index set => exact ⟨index, ⟨_, rfl, hid _ set⟩, rfl⟩
  | insert index something => exact ⟨index, hid, _, rfl, something⟩
  | @bulk _ rows index given something =>
    have halt := Bulk.alternates_ofRows index search.options.docType rows
    have hlength := halt.length_eq
    have hpos := List.length_pos_iff.mpr something
    refine ⟨List.ne_nil_of_length_pos (by omega), by omega, rows, given, halt⟩
  | update index set something =>
    exact ⟨index, ⟨_, rfl, hid _ set⟩, _, rfl, Json.ne_of_isEmpty_eq_false something⟩
  | delete index set => exact ⟨index, ⟨_, rfl, hid _ set⟩, rfl⟩

theorem Reachable.safe {engine : Engine} {operation : Operation} {call : Call}
    (h : search.Reachable) (hc : call ∈ (search.perform engine operation).value.calls) :
    call.Safe operation := by
  -- what is sent names what the operation leaves behind, so that search has to be reachable
  have hnext := h.perform engine operation
  rw [search_perform] at hnext
  exact (mem_calls_iff.mp hc).safe hnext.id_ne_empty

/-- From any start, whatever is done in whatever order and whatever the engine answers, every call
is safe. -/
theorem safe_of_mem_trace (defaults : Defaults) (moves : List Move)
    {performed : Operation × Outcome} (hm : performed ∈ (start defaults).trace moves) {call : Call}
    (hc : call ∈ performed.2.calls) : call.Safe performed.1 := by
  obtain ⟨before, engine, hbefore, heq⟩ := ((Reachable.start defaults).run moves).1 _ hm
  rw [heq] at hc
  exact hbefore.safe hc

/-- A deletion that is refused, and then rows in bulk, of which one has an identifier. -/
def bulkMoves : List Move :=
  [.edit (.index "users"), .perform acknowledging (.delete none),
    .perform acknowledging (.insert (.arr [.obj [("id", .str "7"), ("name", .str "ann")], .null]))]

theorem safe_of_mem_trace_bulkMoves :
    ∃ performed ∈ (start ⟨"_doc", .asc, true⟩).trace bulkMoves, ∃ call ∈ performed.2.calls,
      call = .bulk ⟨[.single "index" (.obj [("_index", .str "users"), ("_type", .str "_doc"),
          ("_id", .str "7")]), .obj [("name", .str "ann")],
        .single "index" (.obj [("_index", .str "users"), ("_type", .str "_doc")]), .null]⟩ ∧
      call.Safe performed.1 :=
  ⟨_, .tail _ (.head _), _, .head _, rfl,
    safe_of_mem_trace ⟨"_doc", .asc, true⟩ bulkMoves (.tail _ (.head _)) (.head _)⟩

end Search

end SearchQuery

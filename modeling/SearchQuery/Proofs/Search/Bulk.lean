import SearchQuery.Proofs.Json.Distinct
import SearchQuery.Proofs.Json.Same
import SearchQuery.Proofs.Request.Bulk
import SearchQuery.Proofs.Search.Call

/-! Rows written in bulk. Each row has its own action and its own document, at twice its place among
the rows and right after: the identifier that a row brings goes into the action before its document
and nowhere else, and the document is the row without it. Main statements: `storedAs_splitId`,
`entries_ofRows`, `perform_bulk`. -/
namespace SearchQuery

namespace Bulk

/-- What stands under a key, unless it is null. -/
def nonNull? (row : Json) (key : String) : Option Json := (row.get? key).filter (!·.isNull)

/-- The identifier that a row brings: its id or else its _id. -/
def identifier? (row : Json) : Option Json := (nonNull? row "id").or (nonNull? row "_id")

/-- The action for a row names its target, and the identifier of the row if the row brings one. -/
structure ActionFor (index docType : String) (row action : Json) : Prop where
  keys : action.keys = ["_index", "_type"] ++ if (identifier? row).isSome then ["_id"] else []
  index : action.get? "_index" = some (.str index)
  docType : action.get? "_type" = some (.str docType)
  id : action.get? "_id" = identifier? row

/-- The document of a row. An object keeps all that it has under other keys than the two for
identifiers, and any other row is its own document. -/
def StoredAs (row document : Json) : Prop :=
  match row with
  | .obj members => ∃ fields, document = .obj fields ∧ (Entries.keys fields).Nodup ∧
      ∀ key, Entries.get? fields key =
        if key = "id" ∨ key = "_id" then none else Entries.get? members key
  | _ => document = row

variable {index docType : String} {row : Json}

/-- The first removal does not hide the second identifier. -/
theorem splitId_fst (distinct : row.keys.Nodup) : (splitId row).1 = identifier? row := by
  cases row with
  | obj members =>
    have hrest : Entries.get? (Entries.remove "id" members) "_id" = Entries.get? members "_id" := by
      rw [Entries.get?_remove distinct, if_neg (by decide)]
    simp only [splitId, hrest, List.findSome?_cons, List.findSome?_nil, identifier?, nonNull?,
      Json.get?]
    cases (Entries.get? members "id").filter (!·.isNull) with
    | some id => rfl
    | none => cases (Entries.get? members "_id").filter (!·.isNull) <;> rfl
  | _ => rfl

theorem storedAs_splitId (distinct : row.keys.Nodup) : StoredAs row (splitId row).2 := by
  cases row with
  | obj members =>
    have hrest := Entries.nodup_keys_remove distinct "id"
    refine ⟨_, rfl, Entries.nodup_keys_remove hrest "_id", fun key => ?_⟩
    rw [Entries.get?_remove hrest, Entries.get?_remove distinct]
    by_cases hid : key = "id"
    · simp [hid]
    · by_cases hunderscore : key = "_id"
      · simp [hunderscore]
      · simp [hid, hunderscore, Ne.symm hid, Ne.symm hunderscore]
  | _ => rfl

/-- The action with an identifier or without one. -/
def actionWith (index docType : String) (id : Option Json) : Json :=
  .obj ([("_index", .str index), ("_type", .str docType)] ++ id.toList.map fun id => ("_id", id))

theorem ofRow_eq (index docType : String) (row : Json) :
    ofRow index docType row =
      [.single "index" (actionWith index docType (splitId row).1), (splitId row).2] := rfl

theorem actionFor_actionWith (index docType : String) (row : Json) :
    ActionFor index docType row (actionWith index docType (identifier? row)) := by
  cases hid : identifier? row with
  | none => exact ⟨by rw [hid]; rfl, rfl, rfl, by rw [hid]; rfl⟩
  | some id => exact ⟨by rw [hid]; rfl, rfl, rfl, by rw [hid]; rfl⟩

/-- The action of a row stands at twice its place, and its document right after. -/
theorem entries_ofRows {rows : List Json} (distinct : ∀ row ∈ rows, row.keys.Nodup) {i : Nat}
    (h : rows[i]? = some row) :
    ∃ action document,
      (ofRows index docType rows).body[2 * i]? = some (.single "index" action) ∧
      (ofRows index docType rows).body[2 * i + 1]? = some document ∧
      ActionFor index docType row action ∧ StoredAs row document := by
  induction rows generalizing i with
  | nil => cases h
  | cons first rest ih =>
    obtain ⟨hfirst, hrest⟩ := List.forall_mem_cons.mp distinct
    have hbody : (ofRows index docType (first :: rest)).body =
        .single "index" (actionWith index docType (identifier? first)) :: (splitId first).2 ::
          (ofRows index docType rest).body := by
      rw [ofRows, List.flatMap_cons, ofRow_eq, splitId_fst hfirst]
      rfl
    rw [hbody]
    cases i with
    | zero =>
      cases h
      exact ⟨_, _, rfl, rfl, actionFor_actionWith index docType row, storedAs_splitId hfirst⟩
    | succ i =>
      -- the two entries of the first row stand before those of all others
      have hplace : 2 * (i + 1) = 2 * i + 1 + 1 := by omega
      rw [hplace]
      exact ih hrest h

end Bulk

namespace Search

variable {search : Search} {operation : Operation} {rows : List Json}

/-- A search that has an index sends rows that it is given, in an insertion of many or of a list, in
one bulk request. It counts as many documents as there are rows and has two entries for each: at twice
the place of a row the action with the row's own identifier, and right after it the row without. -/
theorem perform_bulk (index : search.options.index ≠ "")
    (bulk : operation = .bulkInsert rows ∨ operation = .insert (.arr rows)) (something : rows ≠ [])
    (distinct : ∀ row ∈ rows, row.keys.Nodup) (engine : Engine) :
    ∃ sent, (search.perform engine operation).value.calls = [.bulk sent] ∧
      sent.body.length = 2 * rows.length ∧ sent.size = rows.length ∧
      ∀ (i : Nat) (row : Json), rows[i]? = some row →
        ∃ action document, sent.body[2 * i]? = some (.single "index" action) ∧
          sent.body[2 * i + 1]? = some document ∧
          Bulk.ActionFor search.options.index search.options.docType row action ∧
          Bulk.StoredAs row document := by
  have given : operation.rows? = some rows := by
    rcases bulk with rfl | rfl
    · rfl
    · rfl
  have haddress : search.address operation = search := by
    rcases bulk with rfl | rfl
    · rfl
    · rfl
  have hasks : (search.address operation).Asks operation
      (.bulk (.ofRows search.options.index search.options.docType rows)) := by
    rw [haddress]
    exact .bulk index given something
  have hlength := (Bulk.alternates_ofRows index search.options.docType rows).length_eq
  refine ⟨_, calls_of_asks hasks, hlength, ?_, fun i row => Bulk.entries_ofRows distinct⟩
  rw [Bulk.size, hlength]
  omega

/-- A row that brings both identifiers, one that is no object, and one whose first identifier is
null. -/
def mixedRows : List Json :=
  [.obj [("_id", .str "a"), ("id", .ofNat 7), ("name", .str "ann")], .bool true,
    .obj [("id", .null), ("name", .str "bob"), ("_id", .str "b")]]

theorem perform_bulk_mixedRows :
    ((start ⟨"_doc", .asc, true⟩).edit (.index "users")).options.index ≠ "" ∧ mixedRows ≠ [] ∧
      (∀ row ∈ mixedRows, row.keys.Nodup) ∧
      ∃ sent first last document,
        (((start ⟨"_doc", .asc, true⟩).edit (.index "users")).perform (fun _ => .ok .null)
          (.insert (.arr mixedRows))).value.calls = [.bulk sent] ∧ sent.size = 3 ∧
        sent.body[0]? = some (.single "index" first) ∧ first.get? "_id" = some (.ofNat 7) ∧
        sent.body[4]? = some (.single "index" last) ∧ last.get? "_id" = some (.str "b") ∧
        sent.body[5]? = some document ∧ document.get? "name" = some (.str "bob") ∧
        document.get? "_id" = none := by
  have index : ((start ⟨"_doc", .asc, true⟩).edit (.index "users")).options.index ≠ "" := by
    decide
  have something : mixedRows ≠ [] := List.cons_ne_nil _ _
  have distinct : ∀ row ∈ mixedRows, row.keys.Nodup := by simp [mixedRows, Json.keys, Entries.keys]
  obtain ⟨sent, hcalls, _, hsize, hentries⟩ :=
    perform_bulk index (.inr rfl) something distinct fun _ => .ok .null
  obtain ⟨first, _, hfirst, _, hfor, _⟩ := hentries 0 _ rfl
  obtain ⟨last, document, hlast, hdocument, hfor', fields, rfl, _, hfields⟩ := hentries 2 _ rfl
  exact ⟨index, something, distinct, sent, first, last, _, hcalls, hsize, hfirst, hfor.id, hlast,
    hfor'.id, hdocument, hfields "name", hfields "_id"⟩

end Search

end SearchQuery

import SearchQuery.Request.Bulk

/-! The body of a bulk request: for each row in turn the action that indexes it, and then its
document. Main statement: `alternates_ofRows`. -/
namespace SearchQuery.Bulk

/-- The action that indexes the document after it, in an index that has a name. -/
def IsAction (action : Json) : Prop :=
  ∃ index members, index ≠ "" ∧ Entries.get? members "_index" = some (.str index) ∧
    action = .single "index" (.obj members)

/-- The document of a row: an object loses its identifiers, any other row is as it was given. The
order of what an object keeps is left open, for a removal moves the last member. -/
def IsDocument (row document : Json) : Prop :=
  match row with
  | .obj members => ∃ fields, document = .obj fields ∧
      ((Entries.keys members).Nodup →
        fields.Perm (members.filter fun member => member.1 != "id" && member.1 != "_id"))
  | _ => document = row

/-- For each of the rows, an action and a document. -/
inductive Alternates : List Json → List Json → Prop
  | nil : Alternates [] []
  | cons {row action document : Json} {rows body : List Json} (index : IsAction action)
      (entry : IsDocument row document) (rest : Alternates rows body) :
      Alternates (row :: rows) (action :: document :: body)

theorem Alternates.length_eq {rows body : List Json} (h : Alternates rows body) :
    body.length = 2 * rows.length := by
  induction h with
  | nil => rfl
  | cons _ _ _ ih =>
    simp only [List.length_cons, ih]
    omega

theorem isDocument_splitId (row : Json) : IsDocument row (splitId row).2 := by
  cases row with
  | obj members =>
    refine ⟨_, rfl, fun h => ?_⟩
    have hid := Entries.remove_perm h "id"
    have hrest := Entries.remove_perm (Entries.nodup_keys_remove h "id") "_id"
    refine hrest.trans ((hid.filter _).trans (.of_eq ?_))
    rw [List.filter_filter]
    exact List.filter_congr fun member _ => Bool.and_comm _ _
  | _ => rfl

/-- Every row has its action and its document, in the order of the rows. -/
theorem alternates_ofRows {index : String} (h : index ≠ "") (docType : String)
    (rows : List Json) : Alternates rows (ofRows index docType rows).body := by
  induction rows with
  | nil => exact .nil
  | cons row rows ih => exact .cons ⟨index, _, h, rfl, rfl⟩ (isDocument_splitId row) ih

end SearchQuery.Bulk

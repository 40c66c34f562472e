import SearchQuery.Json.Basic

/-! Bulk requests: actions and documents by turns. -/
namespace SearchQuery

structure Bulk where
  body : List Json

namespace Bulk

/-- The number of documents. -/
def size (bulk : Bulk) : Nat := bulk.body.length / 2

def isEmpty (bulk : Bulk) : Bool := bulk.body.isEmpty

def toJson (bulk : Bulk) : Json := .single "body" (.arr bulk.body)

/-- A bulk request is an object, whose other members do not count, or the list of its one part. -/
def ofJson? : Json → Option Bulk
  | .obj members =>
    match Entries.get? members "body" with
    | some (.arr body) => some ⟨body⟩
    | _ => none
  | .arr [.arr body] => some ⟨body⟩
  | _ => none

/-- The identifier of a row, and the row without it. Null is no identifier. -/
def splitId (row : Json) : Option Json × Json :=
  match row with
  | .obj members =>
    let rest := Entries.remove "id" members
    let ids := [Entries.get? members "id", Entries.get? rest "_id"]
    let id := ids.findSome? fun id => id.filter (!·.isNull)
    (id, .obj (Entries.remove "_id" rest))
  | _ => (none, row)

/-- The action and the document of a row. -/
def ofRow (index docType : String) (row : Json) : List Json :=
  let (id, document) := splitId row
  let action : Json := .obj ([("_index", .str index), ("_type", .str docType)] ++
    id.toList.map fun id => ("_id", id))
  [.single "index" action, document]

def ofRows (index docType : String) (rows : List Json) : Bulk :=
  ⟨rows.flatMap (ofRow index docType)⟩

end Bulk

end SearchQuery

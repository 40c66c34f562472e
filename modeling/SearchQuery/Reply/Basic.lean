import SearchQuery.Json.Writer
import SearchQuery.Reply.Count

/-! What a reply amounts to: records, in a flat list or in groups, and how many there are in
total. -/
namespace SearchQuery

/-- The members of a hit or of a document. -/
abbrev Record := Entries Json

/-- The records under one key of a grouping. -/
structure Group where
  key : String
  docCount : Nat
  records : List Record

inductive Records where
  | hits (list : List Record)
  | groups (list : List Group)

structure Results where
  total : Nat
  records : Records

def Group.toJson (group : Group) : Json :=
  .obj [("key", .str group.key), ("doc_count", .ofNat group.docCount),
    ("records", .arr (group.records.map .obj))]

namespace Records

def isGrouped : Records → Bool
  | .hits _ => false
  | .groups _ => true

/-- The number of hits, or of groups. -/
def size : Records → Nat
  | .hits list => list.length
  | .groups list => list.length

def isEmpty (records : Records) : Bool := records.size == 0

/-- All records in order, those of the groups one group after the other. -/
def flat : Records → List Record
  | .hits list => list
  | .groups list => list.flatMap (·.records)

/-- The first record there is; groups without records are passed over. -/
def first? : Records → Option Record
  | .hits list => list.head?
  | .groups list => list.findSome? (·.records.head?)

/-- The records of the group with a key. -/
def group? (key : String) : Records → Option (List Record)
  | .hits _ => none
  | .groups list => (list.find? (·.key == key)).map (·.records)

def toJson : Records → Json
  | .hits list => .arr (list.map .obj)
  | .groups list => .arr (list.map Group.toJson)

end Records

def Results.toJson (results : Results) : Json :=
  .obj [("total", .ofNat results.total), ("records", results.records.toJson)]

end SearchQuery

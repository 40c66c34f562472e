import SearchQuery.Event
import SearchQuery.Reply.Basic

/-! From the raw replies of the search engine to records and counts. -/
namespace SearchQuery

namespace Record

/-- The fields of the source among the members of the hit, where they win over members of the same
name. A source that is no object stays as it is. -/
def mergeSource (hit : Record) : Record :=
  match Entries.get? hit "_source" with
  | some (.obj source) => Entries.insertAll (Entries.remove "_source" hit) source
  | some other => Entries.insert "_source" other (Entries.remove "_source" hit)
  | none => hit

def read (merge : Bool) (hit : Record) : Record := if merge then mergeSource hit else hit

/-- A total of the record's own stays, unless it is null. -/
def withTotal (total : Nat) (record : Record) : Record :=
  match Entries.get? record "total" with
  | none | some .null => Entries.insert "total" (.ofNat total) record
  | some _ => record

end Record

namespace Reply

/-- The objects of a list of hits. -/
def hitsOf : Option Json → List Record
  | some (.arr hits) => hits.filterMap fun hit =>
    match hit with
    | .obj members => some members
    | _ => none
  | _ => []

/-- The number of distinct values, if the reply has it, or else of all hits. -/
def total (raw : Json) : Nat :=
  let distinct := (raw.path? ["aggregations", "count", "value"]).bind count?
  let hits := (raw.path? ["hits", "total"]).bind count?
  (distinct.or hits).getD 0

/-! ### Groups -/

def keyText : Option Json → String
  | some (.str text) => text
  | some json => json.compact
  | none => ""

def bucketKey (bucket : Json) : String := keyText (bucket.get? "key")

/-- The number of documents that a bucket reports; a number that cannot be read is zero. -/
def bucketCount (bucket : Json) : Nat := ((bucket.get? "doc_count").bind count?).getD 0

def bucketHits (bucket : Json) : List Record := hitsOf (bucket.path? ["grouplist", "hits", "hits"])

/-- The group of one bucket, whose records carry the bucket's count as their total. -/
def groupOf (merge : Bool) (bucket : Json) : Group :=
  { key := bucketKey bucket
    docCount := bucketCount bucket
    records := (bucketHits bucket).map fun hit =>
      (hit.read merge).withTotal (bucketCount bucket) }

/-- The records go to the first group of the same key. -/
def join (group : Group) : List Group → List Group
  | [] => [group]
  | first :: rest =>
    if first.key = group.key then { first with records := first.records ++ group.records } :: rest
    else first :: join group rest

def groups (merge : Bool) (buckets : List Json) : List Group :=
  buckets.foldl (fun acc bucket => join (groupOf merge bucket) acc) []

/-! ### Replies -/

/-- Groups, if the reply has them, or else hits. The buckets are taken out of the reply before the
rest of it is read. -/
def results (raw : Json) (merge : Bool) : Logged Event Results := do
  let (buckets, raw) := raw.take ["aggregations", "groupby", "buckets"]
  match buckets with
  | some (.arr buckets) =>
    let groups := groups merge buckets
    Logged.note (.grouped groups.length)
    return ⟨buckets.length, .groups groups⟩
  | _ =>
    return ⟨total raw, .hits ((hitsOf (raw.path? ["hits", "hits"])).map (·.read merge))⟩

/-- A single document, unless the reply says that there is none. -/
def document? (raw : Json) (merge : Bool) : Option Record :=
  match raw with
  | .obj members =>
    match Entries.get? members "found" with
    | some (.bool false) => none
    | _ => some (Record.read merge members)
  | _ => none

end Reply

end SearchQuery

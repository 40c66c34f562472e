import SearchQuery.Condition.Query
import SearchQuery.Request.Basic
import SearchQuery.Request.Options

/-! The request that options and conditions make together. A plain request carries the page, the
order and the fields at its top. A grouped request asks for no hits of its own, and carries them in
an aggregation over the groups. -/
namespace SearchQuery

/-- A member that is there under a condition. -/
def memberIf (present : Bool) (key : String) (value : Json) : List (String × Json) :=
  if present then [(key, value)] else []

namespace Options

def sortClause (options : Options) : Json :=
  .arr (options.sort.map fun key =>
    .single key.field (.single "order" (.str key.direction.name)))

def collapseMembers (field : String) : List (String × Json) :=
  [("collapse", .single "field" (.str field)),
    ("aggs", .single "count" (.single "cardinality" (.single "field" (.str field))))]

def plainBody (options : Options) (query : Json) : Json :=
  .obj (memberIf (options.size != 0) "size" (.ofNat options.size) ++
    memberIf (options.size != 0) "from" (.ofNat options.offset) ++
    memberIf (!options.sort.isEmpty) "sort" options.sortClause ++
    [("query", query)] ++
    memberIf (!options.source.isEmpty) "_source" (.ofStrings options.source) ++
    options.collapse.toList.flatMap collapseMembers)

/-- The hits to return of each group. -/
def topHits (options : Options) : Json :=
  .obj (memberIf (!options.sort.isEmpty) "sort" options.sortClause ++
    memberIf (options.size != 0) "size" (.ofNat options.size) ++
    memberIf (!options.source.isEmpty) "_source" (.single "includes" (.ofStrings options.source)))

def groupBody (options : Options) (field : String) (query : Json) : Json :=
  .obj [("from", .ofNat 0), ("size", .ofNat 0), ("query", query),
    ("aggs", .single "groupby" (.obj [("terms", .single "field" (.str field)),
      ("aggs", .single "grouplist" (.single "top_hits" options.topHits))]))]

/-- A request to the options' target that keeps their identifier. -/
def target (options : Options) (body : Option Json) : Logged Event Request := do
  Logged.note (.query options.index options.id body.isSome)
  return ⟨options.index, options.docType, options.id, body⟩

/-- The request to search. A body of the options' own replaces the conditions in plain mode. -/
def request (options : Options) (conditions : ConditionSet) :
    Logged Event (Except Error Request) := do
  if options.index.isEmpty then return .error .indexMissing
  match options.collapse, options.groupBy with
  | some collapse, some groupBy => return .error (.modesConflict collapse groupBy)
  | none, some field =>
    Logged.note (.groupQuery options.index field)
    let query ← conditions.query
    return .ok ⟨options.index, options.docType, none, some (options.groupBody field query)⟩
  | _, none =>
    match options.body with
    | some body => return .ok (← options.target body.sent?)
    | none =>
      let query ← conditions.query
      return .ok (← options.target (some (options.plainBody query)))

/-- A request with a given body, whatever the options say of searching. -/
def requestWith (options : Options) (body : Body) : Logged Event (Except Error Request) := do
  if options.index.isEmpty then return .error .indexMissing
  return .ok (← options.target body.sent?)

end Options

end SearchQuery

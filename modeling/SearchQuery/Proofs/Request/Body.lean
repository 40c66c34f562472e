import Mathlib.Data.List.Nodup
import SearchQuery.Proofs.Json.Same
import SearchQuery.Request.Assembly

/-! What stands under the keys of the bodies that options make. The page, the order and the fields
are the same values in both modes, in another place of the body. Main statements: `get?_plainBody`,
`get?_topHits`. -/
namespace SearchQuery

theorem Entries.get?_append {α : Type} (as bs : Entries α) (key : String) :
    get? (as ++ bs) key = (get? as key).or (get? bs key) := by
  induction as with
  | nil => rfl
  | cons entry rest ih =>
    obtain ⟨k, v⟩ := entry
    by_cases h : k = key <;> simp [get?, h, ih]

theorem Entries.keys_append {α : Type} (as bs : Entries α) :
    keys (as ++ bs) = keys as ++ keys bs :=
  List.map_append

theorem get?_memberIf (present : Bool) (key : String) (value : Json) (other : String) :
    Entries.get? (memberIf present key value) other =
      if key = other then (if present then some value else none) else none := by
  cases present <;> by_cases h : key = other <;> simp [memberIf, Entries.get?, h]

theorem keys_memberIf_sublist (present : Bool) (key : String) (value : Json) :
    (Entries.keys (memberIf present key value)).Sublist [key] := by
  cases present
  · exact List.nil_sublist _
  · exact .refl _

namespace Options

variable (options : Options) (query : Json)

/-! ### Values of options -/

def sizeValue? : Option Json := if options.size != 0 then some (.ofNat options.size) else none

def fromValue? : Option Json := if options.size != 0 then some (.ofNat options.offset) else none

def sortValue? : Option Json := if !options.sort.isEmpty then some options.sortClause else none

def sourceValue? : Option Json :=
  if !options.source.isEmpty then some (.ofStrings options.source) else none

/-! ### Plain bodies -/

theorem keys_plainBody_sublist : (options.plainBody query).keys.Sublist
    ["size", "from", "sort", "query", "_source", "collapse", "aggs"] := by
  have hcollapse : (Entries.keys (options.collapse.toList.flatMap collapseMembers)).Sublist
      ["collapse", "aggs"] := by
    cases options.collapse with
    | none => exact List.nil_sublist _
    | some field => exact .refl _
  simp only [plainBody, Json.keys, Entries.keys_append]
  exact (((((keys_memberIf_sublist _ "size" _).append (keys_memberIf_sublist _ "from" _)).append
    (keys_memberIf_sublist _ "sort" _)).append (.refl ["query"])).append
    (keys_memberIf_sublist _ "_source" _)).append hcollapse

theorem nodup_keys_plainBody : (options.plainBody query).keys.Nodup :=
  (options.keys_plainBody_sublist query).nodup (by decide)

theorem get?_plainBody :
    (options.plainBody query).get? "size" = options.sizeValue? ∧
    (options.plainBody query).get? "from" = options.fromValue? ∧
    (options.plainBody query).get? "sort" = options.sortValue? ∧
    (options.plainBody query).get? "query" = some query ∧
    (options.plainBody query).get? "_source" = options.sourceValue? ∧
    (options.plainBody query).get? "collapse" =
      options.collapse.map (fun field => .single "field" (.str field)) ∧
    (options.plainBody query).get? "aggs" =
      options.collapse.map (fun field =>
        .single "count" (.single "cardinality" (.single "field" (.str field)))) := by
  cases hc : options.collapse <;>
    simp [plainBody, Json.get?, Entries.get?_append, get?_memberIf, Entries.get?, sizeValue?,
      fromValue?, sortValue?, sourceValue?, hc, collapseMembers]

/-! ### Grouped bodies -/

theorem nodup_keys_groupBody (field : String) : (options.groupBody field query).keys.Nodup :=
  have hkeys : ["from", "size", "query", "aggs"].Nodup := by decide
  hkeys

theorem keys_topHits_sublist : options.topHits.keys.Sublist ["sort", "size", "_source"] := by
  simp only [topHits, Json.keys, Entries.keys_append]
  exact ((keys_memberIf_sublist _ "sort" _).append (keys_memberIf_sublist _ "size" _)).append
    (keys_memberIf_sublist _ "_source" _)

theorem get?_topHits :
    options.topHits.get? "sort" = options.sortValue? ∧
    options.topHits.get? "size" = options.sizeValue? ∧
    options.topHits.get? "_source" = options.sourceValue?.map (.single "includes") := by
  cases h : options.source.isEmpty <;>
    simp [topHits, Json.get?, Entries.get?_append, get?_memberIf, sizeValue?,
      sortValue?, sourceValue?, h]

end Options

end SearchQuery

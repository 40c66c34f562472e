import SearchQuery.Proofs.Request.Effective

/-! A grouped search beside the same search without groups. The query stays where it is; the order,
the page size and the fields to return move into the aggregation, as they are and only if they were
there; the page itself is empty, and neither an identifier nor a body of the options' own has an
effect. Main statement: `request_groupedBy`. -/
namespace SearchQuery.Options

/-- Where a grouped body says what to return of each group. -/
def topHitsPath : List String := ["aggs", "groupby", "aggs", "grouplist", "top_hits"]

/-- What a plain body says of the hits to return, moved to another place. -/
structure Moved (plain hits : Json) : Prop where
  sort : hits.get? "sort" = plain.get? "sort"
  size : hits.get? "size" = plain.get? "size"
  source : hits.get? "_source" = (plain.get? "_source").map (.single "includes")
  keys : ∀ key, key ∈ hits.keys ↔ key ∈ plain.keys ∧ key ≠ "from" ∧ key ≠ "query"

/-- The body of a search in groups by a field, beside the body of the same search without groups. -/
structure Relocated (field : String) (plain grouped : Json) : Prop where
  keys : grouped.keys = ["from", "size", "query", "aggs"]
  noOffset : grouped.get? "from" = some (.ofNat 0)
  noHits : grouped.get? "size" = some (.ofNat 0)
  query : ∃ query, plain.get? "query" = some query ∧ grouped.get? "query" = some query
  field : grouped.path? ["aggs", "groupby", "terms", "field"] = some (.str field)
  hits : ∃ hits, grouped.path? topHitsPath = some hits ∧ Moved plain hits

/-- The same search in groups, with an identifier and a body that it may have of its own. -/
def groupedBy (options : Options) (field : String) (id : Option String) (body : Option Body) :
    Options :=
  { options with groupBy := some field, id := id, body := body }

variable {options : Options}

theorem mem_keys_memberIf {present : Bool} {name key : String} {value : Json} :
    key ∈ Entries.keys (memberIf present name value) ↔ present = true ∧ key = name := by
  cases present <;> simp [memberIf, Entries.keys]

theorem mem_keys_topHits {key : String} :
    key ∈ options.topHits.keys ↔ (!options.sort.isEmpty) = true ∧ key = "sort" ∨
      (options.size != 0) = true ∧ key = "size" ∨
      (!options.source.isEmpty) = true ∧ key = "_source" := by
  simp only [topHits, Json.keys, Entries.keys_append, List.mem_append, mem_keys_memberIf, or_assoc]

theorem mem_keys_plainBody (hcollapse : options.collapse = none) {query : Json} {key : String} :
    key ∈ (options.plainBody query).keys ↔ (options.size != 0) = true ∧ key = "size" ∨
      (options.size != 0) = true ∧ key = "from" ∨ (!options.sort.isEmpty) = true ∧ key = "sort" ∨
      key = "query" ∨ (!options.source.isEmpty) = true ∧ key = "_source" := by
  have hquery : key ∈ Entries.keys [("query", query)] ↔ key = "query" := by simp [Entries.keys]
  simp only [plainBody, hcollapse, Option.toList_none, List.flatMap_nil, List.append_nil, Json.keys,
    Entries.keys_append, List.mem_append, mem_keys_memberIf, hquery, or_assoc]

/-- Without a field to collapse on, nothing stands in a plain body besides what moves but the offset
and the query. -/
theorem moved_topHits (hcollapse : options.collapse = none) (query : Json) :
    Moved (options.plainBody query) options.topHits := by
  obtain ⟨hsize, _, hsort, _, hsource, _⟩ := options.get?_plainBody query
  obtain ⟨hsort', hsize', hsource'⟩ := options.get?_topHits
  refine ⟨hsort'.trans hsort.symm, hsize'.trans hsize.symm, by rw [hsource', hsource], fun key => ?_⟩
  rw [mem_keys_topHits, mem_keys_plainBody hcollapse]
  constructor
  · rintro (⟨h, rfl⟩ | ⟨h, rfl⟩ | ⟨h, rfl⟩)
    · simp [h]
    · simp [h]
    · simp [h]
  · rintro ⟨⟨h, rfl⟩ | ⟨_, rfl⟩ | ⟨h, rfl⟩ | rfl | ⟨h, rfl⟩, hfrom, hquery⟩
    · exact .inr (.inl ⟨h, rfl⟩)
    · exact absurd rfl hfrom
    · exact .inl ⟨h, rfl⟩
    · exact absurd rfl hquery
    · exact .inr (.inr ⟨h, rfl⟩)

theorem relocated_groupBody (hcollapse : options.collapse = none) (field : String) (query : Json) :
    Relocated field (options.plainBody query) (options.groupBody field query) where
  keys := rfl
  noOffset := rfl
  noHits := rfl
  query := ⟨query, (options.get?_plainBody query).2.2.2.1, rfl⟩
  field := rfl
  hits := ⟨options.topHits, rfl, moved_topHits hcollapse query⟩

/-- Grouping moves the plain options and changes nothing else. Whatever identifier and body come with
it, a search that has an index and no field to collapse on makes a request in groups without an
identifier, whose body is the relocated body of the search without groups; with a field to collapse on
it is refused. -/
theorem request_groupedBy (named : options.index ≠ "") (ungrouped : options.groupBy = none)
    (hcollapse : options.collapse = none) (unset : options.body = none) (conditions : ConditionSet)
    (field : String) (id : Option String) (body : Option Body) :
    ∃ plain grouped,
      (options.request conditions).value =
        .ok ⟨options.index, options.docType, options.id, some plain⟩ ∧
      ((options.groupedBy field id body).request conditions).value =
        .ok ⟨options.index, options.docType, none, some grouped⟩ ∧
      Relocated field plain grouped ∧
      ∀ collapse,
        ({ options.groupedBy field id body with collapse := some collapse }.request
          conditions).value = .error (.modesConflict collapse field) := by
  have hnamed : (options.groupedBy field id body).index ≠ "" := named
  refine ⟨_, _, request_plainBody named ungrouped unset conditions,
    request_grouped hnamed hcollapse rfl conditions, relocated_groupBody hcollapse field _,
    fun collapse => ?_⟩
  rw [request_conflict]
  · exact named
  · rfl
  · rfl

/-- The third page of three, the eldest first, with names only. -/
def eldest : Options :=
  { index := "users", docType := "user", offset := 6, size := 3, sort := [⟨"age", .desc⟩],
    source := ["name"] }

theorem request_groupedBy_eldest :
    eldest.index ≠ "" ∧ eldest.groupBy = none ∧ eldest.collapse = none ∧ eldest.body = none ∧
      ∃ grouped hits,
        ((eldest.groupedBy "city" (some "7") (some .suppressed)).request .romans).value =
          .ok ⟨"users", "user", none, some grouped⟩ ∧
        grouped.get? "size" = some (.ofNat 0) ∧ grouped.path? topHitsPath = some hits ∧
        hits.get? "size" = some (.ofNat 3) ∧
        hits.get? "_source" = some (.single "includes" (.ofStrings ["name"])) := by
  have hindex : eldest.index ≠ "" := by decide
  obtain ⟨plain, grouped, hplain, hgrouped, hrelocated, _⟩ :=
    request_groupedBy hindex rfl rfl rfl .romans "city" (some "7") (some .suppressed)
  rw [request_plainBody hindex rfl rfl] at hplain
  cases hplain
  obtain ⟨hits, hpath, hmoved⟩ := hrelocated.hits
  exact ⟨hindex, rfl, rfl, rfl, grouped, hits, hgrouped, hrelocated.noHits, hpath, hmoved.size,
    hmoved.source⟩

end SearchQuery.Options

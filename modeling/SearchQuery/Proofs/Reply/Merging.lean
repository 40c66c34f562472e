import SearchQuery.Proofs.Reply.Grouping
import SearchQuery.Proofs.Reply.Sources
import SearchQuery.Proofs.Search.Replies

/-! Replies read with sources merged, beside the same replies read without. The groups, the counts and
the number of records are the same; a record differs from its merged form only in a total that is
filled in before the merging in one reading and after it in the other. Main statements:
`mergedAs_withTotal`, `results_merged`. -/
namespace SearchQuery

namespace Record

variable {hit : Record} {source : Entries Json}

/-! ### Totals before and after -/

/-- The source of a hit says null for the total. -/
def SourceTotalNull (hit : Record) : Prop :=
  ∃ source, Entries.get? hit "_source" = some (.obj source) ∧
    Entries.get? source "total" = some .null

/-- What a hit reads as when sources are merged, beside what it reads as when they are not. -/
structure MergedAs (hit plain merged : Record) : Prop where
  others : ∀ key, key ≠ "total" →
    Entries.get? merged key = Entries.get? plain.mergeSource key
  total : ¬ hit.SourceTotalNull →
    Entries.get? merged "total" = Entries.get? plain.mergeSource "total"

/-- The total that is read depends on the total that was there. -/
theorem get?_withTotal_congr {record other : Record} (count : Nat)
    (h : Entries.get? record "total" = Entries.get? other "total") :
    Entries.get? (record.withTotal count) "total" =
      Entries.get? (other.withTotal count) "total" := by
  rcases total_cases record with hfill | ⟨total, hown, hnull⟩
  · have hother := hfill
    rw [h] at hother
    rw [withTotal_filled count hfill, withTotal_filled count hother, Entries.get?_insert,
      Entries.get?_insert]
    simp
  · have hother := hown
    rw [h] at hother
    rw [withTotal_own count hown hnull, withTotal_own count hother hnull, h]

theorem nodup_keys_withTotal (hkeys : (Entries.keys hit).Nodup) (count : Nat) :
    (Entries.keys (hit.withTotal count)).Nodup := by
  rcases total_cases hit with hfill | ⟨total, hown, hnull⟩
  · rw [withTotal_filled count hfill]
    exact Entries.nodup_keys_insert hkeys "total" (.ofNat count)
  · rw [withTotal_own count hown hnull]
    exact hkeys

theorem source_withTotal (count : Nat) (hit : Record) :
    Entries.get? (hit.withTotal count) "_source" = Entries.get? hit "_source" :=
  get?_withTotal_of_ne count (by decide) hit

/-- Where the source is an object, its total, if it has one that is not null, stands in both; without
one the total of the hit is filled in on both sides. -/
theorem mergedAs_withTotal_of_obj (hkeys : (Entries.keys hit).Nodup)
    (hfields : (Entries.keys source).Nodup)
    (hsource : Entries.get? hit "_source" = some (.obj source)) (count : Nat) :
    MergedAs hit (hit.withTotal count) (hit.mergeSource.withTotal count) := by
  have hmerged := get?_mergeSource_of_obj hsource hkeys hfields
  have hplain := get?_mergeSource_of_obj ((source_withTotal count hit).trans hsource)
    (nodup_keys_withTotal hkeys count) hfields
  refine ⟨fun key hkey => ?_, fun hnull => ?_⟩
  · rw [get?_withTotal_of_ne count hkey, hmerged, hplain, get?_withTotal_of_ne count hkey]
  · cases htotal : Entries.get? source "total" with
    | none =>
      have hsame : Entries.get? hit.mergeSource "total" = Entries.get? hit "total" := by
        rw [hmerged, htotal]
        rfl
      rw [get?_withTotal_congr count hsame, hplain, htotal]
      rfl
    | some total =>
      have hne : total ≠ .null := by
        rintro rfl
        exact hnull ⟨source, hsource, htotal⟩
      have hown : Entries.get? hit.mergeSource "total" = some total := by
        rw [hmerged, htotal]
        rfl
      rw [withTotal_own count hown hne, hown, hplain, htotal]
      rfl

theorem mergedAs_withTotal_of_other (hkeys : (Entries.keys hit).Nodup)
    (hsource : ∀ source, Entries.get? hit "_source" ≠ some (.obj source)) (count : Nat) :
    MergedAs hit (hit.withTotal count) (hit.mergeSource.withTotal count) := by
  have hfilled : ∀ source, Entries.get? (hit.withTotal count) "_source" ≠ some (.obj source) := by
    rw [source_withTotal]
    exact hsource
  have hmerged := get?_mergeSource_of_other hsource hkeys
  have hplain := get?_mergeSource_of_other hfilled (nodup_keys_withTotal hkeys count)
  refine ⟨fun key hkey => ?_, fun _ => ?_⟩
  · rw [get?_withTotal_of_ne count hkey, hmerged, hplain, get?_withTotal_of_ne count hkey]
  · rw [get?_withTotal_congr count (hmerged "total"), hplain]

/-- A total filled in before the merging or after it makes no other difference. -/
theorem mergedAs_withTotal (distinct : (Json.obj hit).Distinct) (count : Nat) :
    MergedAs hit (hit.withTotal count) (hit.mergeSource.withTotal count) := by
  obtain ⟨hkeys, hvalues⟩ := Json.distinct_obj_iff.mp distinct
  by_cases hobj : ∃ source, Entries.get? hit "_source" = some (.obj source)
  · obtain ⟨source, hsource⟩ := hobj
    have hmem := (Entries.get?_eq_some_iff_mem hkeys).mp hsource
    have hfields : (Entries.keys source).Nodup := (Json.distinct_obj_iff.mp (hvalues _ hmem)).1
    exact mergedAs_withTotal_of_obj hkeys hfields hsource count
  · exact mergedAs_withTotal_of_other hkeys (not_exists.mp hobj) count

end Record

/-- A group whose records are merged, beside the same group as it is without. Both have one record for
each of the hits. -/
structure Group.MergedAs (hits : List Record) (plain merged : Group) : Prop where
  key : merged.key = plain.key
  docCount : merged.docCount = plain.docCount
  plainSize : plain.records.length = hits.length
  mergedSize : merged.records.length = hits.length
  records : ∀ (i : Nat) (hit before after : Record), hits[i]? = some hit →
    plain.records[i]? = some before → merged.records[i]? = some after →
    Record.MergedAs hit before after

namespace Reply

variable {raw : Json} {buckets : List Json}

/-! ### Hits of distinct keys -/

theorem mem_hitsOf {found : Option Json} {hit : Record} (h : hit ∈ hitsOf found) :
    ∃ items, found = some (.arr items) ∧ .obj hit ∈ items := by
  have hobj : Json.obj hit ∈ (hitsOf found).map .obj := List.mem_map_of_mem h
  rw [map_obj_hitsOf] at hobj
  have hitem := (List.mem_filter.mp hobj).1
  unfold itemsOf at hitem
  split at hitem
  · exact ⟨_, rfl, hitem⟩
  · cases hitem

theorem distinct_of_buckets? (distinct : raw.Distinct) (h : buckets? raw = some buckets) :
    ∀ bucket ∈ buckets, bucket.Distinct :=
  Json.distinct_arr_iff.mp (distinct.path? (path?_of_buckets? h))

theorem distinct_countedHits (distinct : ∀ bucket ∈ buckets, bucket.Distinct) (key : String) :
    ∀ counted ∈ countedHits key buckets, (Json.obj counted.2).Distinct := by
  intro counted hcounted
  obtain ⟨bucket, hbucket, hmem⟩ := List.mem_flatMap.mp hcounted
  obtain ⟨hit, hhit, rfl⟩ := List.mem_map.mp hmem
  obtain ⟨items, hitems, hobj⟩ := mem_hitsOf hhit
  have hbucketDistinct := distinct bucket (List.mem_filter.mp hbucket).1
  exact Json.distinct_arr_iff.mp (hbucketDistinct.path? hitems) _ hobj

/-! ### Two readings of one reply -/

theorem mergedAs_groupUnder (distinct : ∀ bucket ∈ buckets, bucket.Distinct) (key : String) :
    Group.MergedAs ((countedHits key buckets).map (·.2)) (groupUnder false buckets key)
      (groupUnder true buckets key) where
  key := rfl
  docCount := rfl
  plainSize := by simp [groupUnder]
  mergedSize := by simp [groupUnder]
  records := by
    intro i hit before after hhit hbefore hafter
    simp only [groupUnder, List.getElem?_map] at hhit hbefore hafter
    obtain ⟨counted, hcounted, rfl⟩ := Option.map_eq_some_iff.mp hhit
    rw [hcounted] at hbefore hafter
    cases hbefore
    cases hafter
    have hdistinct := distinct_countedHits distinct key counted (List.mem_of_getElem? hcounted)
    exact Record.mergedAs_withTotal hdistinct counted.1

theorem mergedAs_groups (distinct : ∀ bucket ∈ buckets, bucket.Distinct) :
    List.Forall₂
      (fun plain merged =>
        Group.MergedAs ((countedHits plain.key buckets).map (·.2)) plain merged)
      (groups false buckets) (groups true buckets) := by
  rw [groups_eq, groups_eq, List.forall₂_map_left_iff, List.forall₂_map_right_iff,
    List.forall₂_same]
  exact fun key _ => mergedAs_groupUnder distinct key

/-- Merging changes the records only. A list of hits is merged one by one, and its total is that of the
reply as it came; groups stay what they are, and each of their records is the merged form of the record
without merging, but for a total that the source says to be null. No count depends on it. -/
theorem results_merged (distinct : raw.Distinct) :
    (results raw true).value.total = (results raw false).value.total ∧
    ((buckets? raw = none ∧ ∃ plain, (results raw false).value.records = .hits plain ∧
        (results raw true).value.records = .hits (plain.map Record.mergeSource) ∧
        (results raw false).value.total = total raw) ∨
      ∃ buckets plain merged, buckets? raw = some buckets ∧
        (results raw false).value.records = .groups plain ∧
        (results raw true).value.records = .groups merged ∧
        List.Forall₂
          (fun plain merged =>
            Group.MergedAs ((countedHits plain.key buckets).map (·.2)) plain merged)
          plain merged) ∧
    ∀ (search : Search) (engine : Engine) (merge : Option Bool) (n : Nat),
      (search.perform engine .count).value.answer = .ok (.count n) ↔
        ∃ results, (search.perform engine (.results merge)).value.answer = .ok (.results results) ∧
          results.total = n := by
  refine ⟨total_results raw true false, ?_,
    fun search engine merge n => Search.answer_count_iff merge n⟩
  cases h : buckets? raw with
  | none =>
    left
    rw [results_of_hits h, results_of_hits h]
    refine ⟨rfl, _, rfl, ?_, rfl⟩
    simp [Record.read]
  | some buckets =>
    right
    rw [results_of_buckets h, results_of_buckets h]
    exact ⟨buckets, _, _, rfl, rfl, rfl, mergedAs_groups (distinct_of_buckets? distinct h)⟩

/-- One hit with a null total in its source, and one whose total comes from the source. -/
def sourceBuckets : List Json :=
  [.obj [("key", .str "rome"), ("doc_count", .ofNat 5), ("grouplist", .single "hits" (.single "hits"
    (.arr [.obj [("_id", .str "a"), ("_source", .single "total" .null)],
      .obj [("_id", .str "b"), ("_source", .single "total" (.ofNat 9))]])))]]

/-- Without merging, both records have the count of their bucket for a total. -/
def plainSources : List Record :=
  [[("_id", .str "a"), ("_source", .single "total" .null), ("total", .ofNat 5)],
    [("_id", .str "b"), ("_source", .single "total" (.ofNat 9)), ("total", .ofNat 5)]]

/-- With merging, the total of the source wins unless it is null. -/
def mergedSources : List Record :=
  [[("_id", .str "a"), ("total", .ofNat 5)], [("_id", .str "b"), ("total", .ofNat 9)]]

/-- The second record is the merged form of the one without merging, and the first is not: there the
merged form would have a null total. -/
theorem results_merged_sourceBuckets :
    (replyOf sourceBuckets).Distinct ∧
      (results (replyOf sourceBuckets) false).value.records =
        .groups [⟨"rome", 5, plainSources⟩] ∧
      (results (replyOf sourceBuckets) true).value.records =
        .groups [⟨"rome", 5, mergedSources⟩] ∧
      List.Forall₂
        (fun plain merged =>
          Group.MergedAs ((countedHits plain.key sourceBuckets).map (·.2)) plain merged)
        [⟨"rome", 5, plainSources⟩] [⟨"rome", 5, mergedSources⟩] ∧
      plainSources.map Record.mergeSource =
        [[("_id", .str "a"), ("total", .null)], [("_id", .str "b"), ("total", .ofNat 9)]] := by
  have hdistinct : (replyOf sourceBuckets).Distinct := by
    simp [replyOf, sourceBuckets, Json.single, Json.ofNat, Json.Distinct, Json.DistinctItems,
      Json.DistinctMembers, Entries.keys]
  have hplain : (results (replyOf sourceBuckets) false).value.records =
      .groups [⟨"rome", 5, plainSources⟩] := rfl
  have hmerged : (results (replyOf sourceBuckets) true).value.records =
      .groups [⟨"rome", 5, mergedSources⟩] := rfl
  obtain ⟨_, ⟨hnone, _⟩ | ⟨buckets, plain, merged, hbuckets, hgroups, hgroups', hall⟩, _⟩ :=
    results_merged hdistinct
  · cases hnone
  · cases hbuckets
    rw [hplain] at hgroups
    rw [hmerged] at hgroups'
    cases hgroups
    cases hgroups'
    exact ⟨hdistinct, hplain, hmerged, hall, rfl⟩

end Reply

end SearchQuery

import Mathlib.Data.List.Nodup
import SearchQuery.Proofs.Reply.Grouping
import SearchQuery.Proofs.Search.Replies

/-! What replies in groups count. The total is the number of buckets, and a group has the count of the
first of its buckets. Both agree with the groups as long as no two buckets have keys that read alike.
Main statements: `docCount_groups`, `counts_of_grouped`. -/
namespace SearchQuery.Reply

variable {raw : Json} {merge : Bool} {buckets : List Json}

/-- The documents that buckets report, all together. -/
def countAll : List Json → Nat
  | [] => 0
  | bucket :: rest => bucketCount bucket + countAll rest

theorem length_groups (merge : Bool) (buckets : List Json) :
    (groups merge buckets).length = (buckets.map bucketKey).eraseDups.length := by
  rw [groups_eq, List.length_map]

/-- The first bucket of a key decides on the count of its group. -/
theorem docCount_groups {group : Group} (h : group ∈ groups merge buckets) :
    group.docCount = firstCount (bucketsUnder group.key buckets) := by
  have heq := eq_groupUnder h
  rw [heq]
  rfl

/-- Where all keys are different, a key has one bucket at most. -/
theorem length_bucketsUnder_le (h : (buckets.map bucketKey).Nodup) (key : String) :
    (bucketsUnder key buckets).length ≤ 1 := by
  have hcount : (buckets.map bucketKey).count key = (bucketsUnder key buckets).length := by
    rw [List.count, List.countP_map, List.countP_eq_length_filter]
    rfl
  have hle := List.nodup_iff_count_le_one.mp h key
  omega

theorem firstCount_eq_countAll {buckets : List Json} (h : buckets.length ≤ 1) :
    firstCount buckets = countAll buckets := by
  match buckets, h with
  | [], _ => rfl
  | [bucket], _ => rfl

/-- The total of a reply in groups is the number of its buckets, which is the number of groups just
where no two buckets have one key. There each group counts all documents of its key, and to count is
to count the groups. -/
theorem counts_of_grouped (h : buckets? raw = some buckets) (merge : Bool) :
    ∃ groups, (results raw merge).value = ⟨buckets.length, .groups groups⟩ ∧
      (∀ group ∈ groups, group.docCount = firstCount (bucketsUnder group.key buckets)) ∧
      (buckets.length = groups.length ↔ (buckets.map bucketKey).Nodup) ∧
      ((buckets.map bucketKey).Nodup →
        (∀ group ∈ groups, group.docCount = countAll (bucketsUnder group.key buckets)) ∧
        ∀ (search : Search) (engine : Engine) (call : Call) (asked : Option Bool),
          search.callSearch.value = .ok call → engine call = .ok raw →
          asked.getD search.defaults.mergeSource = merge →
          (search.perform engine (.results asked)).value.answer =
              .ok (.results ⟨groups.length, .groups groups⟩) ∧
            (search.perform engine .count).value.answer = .ok (.count groups.length)) := by
  have hlength : buckets.length = (groups merge buckets).length ↔
      (buckets.map bucketKey).Nodup := by
    rw [length_groups, ← length_eraseDups_eq_iff, List.length_map]
    exact eq_comm
  refine ⟨groups merge buckets, results_of_buckets h merge, fun group hgroup => docCount_groups hgroup,
    hlength, fun distinct => ⟨fun group hgroup => ?_, ?_⟩⟩
  · rw [docCount_groups hgroup]
    exact firstCount_eq_countAll (length_bucketsUnder_le distinct group.key)
  · intro search engine call asked hcall hreply hasked
    have htotal : buckets.length = (groups merge buckets).length := hlength.mpr distinct
    have hresults := Search.answer_results hcall hreply asked
    have hcount := Search.answer_count hcall hreply
    rw [hasked, results_of_buckets h, htotal] at hresults
    rw [results_of_buckets h, htotal] at hcount
    exact ⟨hresults, hcount⟩

/-- A city and another one, of five and of four documents. -/
def cityBuckets : List Json :=
  [.obj [("key", .str "rome"), ("doc_count", .ofNat 5)],
    .obj [("key", .str "oslo"), ("doc_count", .ofNat 4)]]

theorem counts_of_grouped_cities :
    buckets? (replyOf cityBuckets) = some cityBuckets ∧ (cityBuckets.map bucketKey).Nodup ∧
      ∃ groups, (results (replyOf cityBuckets) true).value = ⟨2, .groups groups⟩ ∧
        groups.length = 2 ∧
        ∀ group ∈ groups, group.docCount = countAll (bucketsUnder group.key cityBuckets) := by
  have hdistinct : (cityBuckets.map bucketKey).Nodup := by decide
  have hbuckets : buckets? (replyOf cityBuckets) = some cityBuckets := rfl
  obtain ⟨groups, hresults, _, hlength, hcounts⟩ := counts_of_grouped hbuckets true
  exact ⟨hbuckets, hdistinct, groups, hresults, (hlength.mpr hdistinct).symm, (hcounts hdistinct).1⟩

/-- A bucket under a number and one under the text that it reads like. -/
def oneTwice : List Json :=
  [.obj [("key", .ofNat 1), ("doc_count", .ofNat 5)],
    .obj [("key", .str "1"), ("doc_count", .ofNat 4)]]

/-- Buckets that come to one group are still counted twice, and the group has lost the second
count. -/
theorem counts_differ_oneTwice :
    buckets? (replyOf oneTwice) = some oneTwice ∧
      (results (replyOf oneTwice) true).value.total ≠
        (results (replyOf oneTwice) true).value.records.size ∧
      ∃ group, (results (replyOf oneTwice) true).value.records = .groups [group] ∧
        group.docCount ≠ countAll (bucketsUnder group.key oneTwice) := by
  have hresults : (results (replyOf oneTwice) true).value = ⟨2, .groups [⟨"1", 5, []⟩]⟩ := rfl
  have hcount : countAll (bucketsUnder "1" oneTwice) = 9 := rfl
  refine ⟨rfl, ?_, ⟨"1", 5, []⟩, congrArg Results.records hresults, ?_⟩
  · rw [hresults]
    decide
  · rw [hcount]
    decide

end SearchQuery.Reply

import Mathlib.Data.List.Forall2
import SearchQuery.Proofs.List.FirstUse
import SearchQuery.Proofs.Reply.Results

/-! Replies in groups. Buckets whose keys read alike come to one group, the groups stand in the order
in which their keys were first used, and no hit is lost on the way. Main statements: `groups_eq`,
`results_grouped`. -/
namespace SearchQuery

/-! ### Totals of records -/

namespace Record

variable {hit : Record} (count : Nat)

theorem withTotal_own {total : Json} (h : Entries.get? hit "total" = some total)
    (hnull : total ≠ .null) : hit.withTotal count = hit := by
  rw [withTotal, h]
  cases total with
  | null => exact absurd rfl hnull
  | _ => rfl

theorem withTotal_filled
    (h : Entries.get? hit "total" = none ∨ Entries.get? hit "total" = some .null) :
    hit.withTotal count = Entries.insert "total" (.ofNat count) hit := by
  rcases h with h | h <;> rw [withTotal, h]

/-- Either a total of its own stays, or the count is written. -/
theorem total_cases (hit : Record) :
    (Entries.get? hit "total" = none ∨ Entries.get? hit "total" = some .null) ∨
      ∃ total, Entries.get? hit "total" = some total ∧ total ≠ .null := by
  cases h : Entries.get? hit "total" with
  | none => exact .inl (.inl rfl)
  | some total =>
    by_cases hnull : total = .null
    · exact .inl (.inr (congrArg some hnull))
    · exact .inr ⟨total, rfl, hnull⟩

theorem get?_withTotal_of_ne {key : String} (h : key ≠ "total") (hit : Record) :
    Entries.get? (hit.withTotal count) key = Entries.get? hit key := by
  rcases total_cases hit with hfill | ⟨total, hown, hnull⟩
  · rw [withTotal_filled count hfill, Entries.get?_insert, if_neg (Ne.symm h)]
  · rw [withTotal_own count hown hnull]

end Record

namespace Reply

variable {merge : Bool} {buckets : List Json} {bucket : Json} {key : String}

/-- What is listed under a chain of members, be it an object or not. -/
def itemsOf : Option Json → List Json
  | some (.arr items) => items
  | _ => []

/-- Of what is listed, the objects are hits, in their order. -/
theorem map_obj_hitsOf (found : Option Json) :
    (hitsOf found).map Json.obj = (itemsOf found).filter fun item => (item matches .obj _) := by
  match found with
  | some (.arr items) =>
    induction items with
    | nil => rfl
    | cons item rest ih =>
      rw [hitsOf, itemsOf] at ih ⊢
      cases item with
      | obj members => simp [ih]
      | _ => simpa using ih
  | none | some .null | some (.bool _) | some (.num _) | some (.str _) | some (.obj _) => rfl

/-! ### Buckets under one key -/

def bucketsUnder (key : String) (buckets : List Json) : List Json :=
  buckets.filter (bucketKey · == key)

/-- The hits of all buckets with a key, bucket after bucket, each with its own bucket's count. -/
def countedHits (key : String) (buckets : List Json) : List (Nat × Record) :=
  (bucketsUnder key buckets).flatMap fun bucket =>
    (bucketHits bucket).map fun hit => (bucketCount bucket, hit)

/-- The first count among buckets. -/
def firstCount : List Json → Nat
  | [] => 0
  | bucket :: _ => bucketCount bucket

/-- The group that the buckets with a key come to. -/
def groupUnder (merge : Bool) (buckets : List Json) (key : String) : Group :=
  { key := key
    docCount := firstCount (bucketsUnder key buckets)
    records := (countedHits key buckets).map fun counted =>
      (counted.2.read merge).withTotal counted.1 }

theorem map_key_groupUnder (merge : Bool) (buckets : List Json) (keys : List String) :
    (keys.map (groupUnder merge buckets)).map (·.key) = keys := by
  rw [List.map_map]
  exact List.map_id keys

theorem bucketsUnder_concat (key : String) (buckets : List Json) (bucket : Json) :
    bucketsUnder key (buckets ++ [bucket]) =
      bucketsUnder key buckets ++ if bucketKey bucket = key then [bucket] else [] := by
  by_cases h : bucketKey bucket = key <;> simp [bucketsUnder, h]

theorem bucketsUnder_eq_nil_iff :
    bucketsUnder key buckets = [] ↔ key ∉ buckets.map bucketKey := by
  simp [bucketsUnder, List.filter_eq_nil_iff]

theorem firstCount_append {buckets : List Json} (h : buckets ≠ []) (more : List Json) :
    firstCount (buckets ++ more) = firstCount buckets := by
  cases buckets with
  | nil => exact absurd rfl h
  | cons bucket rest => rfl

/-! One more bucket goes to the group of its key, and every other group stays. -/

theorem groupUnder_concat_of_ne (h : bucketKey bucket ≠ key) :
    groupUnder merge (buckets ++ [bucket]) key = groupUnder merge buckets key := by
  have hsame : bucketsUnder key (buckets ++ [bucket]) = bucketsUnder key buckets := by
    rw [bucketsUnder_concat, if_neg h, List.append_nil]
  simp only [groupUnder, countedHits, hsame]

theorem map_groupUnder_concat {keys : List String} (h : bucketKey bucket ∉ keys) :
    keys.map (groupUnder merge (buckets ++ [bucket])) = keys.map (groupUnder merge buckets) := by
  refine List.map_congr_left fun key hkey => groupUnder_concat_of_ne ?_
  rintro rfl
  exact h hkey

theorem groupUnder_concat_of_mem (h : bucketKey bucket ∈ buckets.map bucketKey) :
    groupUnder merge (buckets ++ [bucket]) (bucketKey bucket) =
      { groupUnder merge buckets (bucketKey bucket) with
        records := (groupUnder merge buckets (bucketKey bucket)).records ++
          (groupOf merge bucket).records } := by
  have hne : bucketsUnder (bucketKey bucket) buckets ≠ [] := by
    intro hnil
    exact bucketsUnder_eq_nil_iff.mp hnil h
  simp [groupUnder, groupOf, countedHits, bucketsUnder_concat, firstCount_append hne]

theorem groupUnder_concat_of_notMem (h : bucketKey bucket ∉ buckets.map bucketKey) :
    groupUnder merge (buckets ++ [bucket]) (bucketKey bucket) = groupOf merge bucket := by
  have hnil : bucketsUnder (bucketKey bucket) buckets = [] := bucketsUnder_eq_nil_iff.mpr h
  simp [groupUnder, groupOf, countedHits, bucketsUnder_concat, hnil, firstCount]

/-! ### All groups -/

/-- Joining a bucket's group to the groups of other keys puts it last. -/
theorem join_of_notMem {group : Group} {list : List Group} (h : group.key ∉ list.map (·.key)) :
    join group list = list ++ [group] := by
  induction list with
  | nil => rfl
  | cons first rest ih =>
    rw [List.map_cons, List.mem_cons, not_or] at h
    rw [join, if_neg (Ne.symm h.1), ih h.2, List.cons_append]

/-- Joining a bucket's group to groups that have its key among them changes that one. -/
theorem join_groupUnder {keys : List String} (nodup : keys.Nodup)
    (hmem : bucketKey bucket ∈ keys) (hused : bucketKey bucket ∈ buckets.map bucketKey) :
    join (groupOf merge bucket) (keys.map (groupUnder merge buckets)) =
      keys.map (groupUnder merge (buckets ++ [bucket])) := by
  induction keys with
  | nil => cases hmem
  | cons key rest ih =>
    obtain ⟨hkey, hrest⟩ := List.nodup_cons.mp nodup
    rw [List.map_cons, List.map_cons, join]
    by_cases he : key = bucketKey bucket
    · subst he
      rw [map_groupUnder_concat hkey, groupUnder_concat_of_mem hused]
      exact if_pos rfl
    · have hmem' : bucketKey bucket ∈ rest := (List.mem_cons.mp hmem).resolve_left (Ne.symm he)
      have hne : ¬ (groupUnder merge buckets key).key = (groupOf merge bucket).key := he
      rw [if_neg hne, groupUnder_concat_of_ne (Ne.symm he), ih hrest hmem']

/-- The groups of a reply: one for each key, in the order of first use, with all that the buckets of
the key hold. -/
theorem groups_eq (merge : Bool) (buckets : List Json) :
    groups merge buckets = (buckets.map bucketKey).eraseDups.map (groupUnder merge buckets) := by
  induction buckets using List.reverseRecOn with
  | nil => rfl
  | append_singleton buckets bucket ih =>
    have hstep : groups merge (buckets ++ [bucket]) =
        join (groupOf merge bucket) (groups merge buckets) := by
      simp [groups]
    rw [hstep, ih, List.map_append, List.map_singleton, eraseDups_concat]
    by_cases h : bucketKey bucket ∈ buckets.map bucketKey
    · rw [if_pos h, join_groupUnder (nodup_eraseDups _) (List.mem_eraseDups.mpr h) h]
    · have hfirst : bucketKey bucket ∉ (buckets.map bucketKey).eraseDups :=
        mt List.mem_eraseDups.mp h
      have hnew : (groupOf merge bucket).key ∉
          ((buckets.map bucketKey).eraseDups.map (groupUnder merge buckets)).map (·.key) := by
        rw [map_key_groupUnder]
        exact hfirst
      rw [if_neg h, join_of_notMem hnew, List.map_append, List.map_singleton,
        map_groupUnder_concat hfirst, groupUnder_concat_of_notMem h]

theorem eq_groupUnder {group : Group} (h : group ∈ groups merge buckets) :
    group = groupUnder merge buckets group.key := by
  rw [groups_eq] at h
  obtain ⟨key, _, rfl⟩ := List.mem_map.mp h
  rfl

def replyOf (buckets : List Json) : Json :=
  .single "aggregations" (.single "groupby" (.single "buckets" (.arr buckets)))

end Reply

end SearchQuery

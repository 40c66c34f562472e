import Mathlib.Data.List.Induction
import Mathlib.Data.List.Nodup

/-! Lists without the repetitions of what came before, so that all stands in the order of its first
use. Main statements: `eraseDups_concat`, `nodup_eraseDups`, `length_eraseDups_eq_iff`. -/
namespace SearchQuery

variable {α : Type} [BEq α] [LawfulBEq α]

theorem eraseDups_concat (as : List α) (a : α) [Decidable (a ∈ as)] :
    (as ++ [a]).eraseDups = if a ∈ as then as.eraseDups else as.eraseDups ++ [a] := by
  simp only [List.eraseDups_append, List.cons_removeAll, List.nil_removeAll, List.contains_eq_mem]
  by_cases h : a ∈ as
  · simp [h]
  · simp [h, List.eraseDups_cons]

theorem nodup_eraseDups (as : List α) : as.eraseDups.Nodup := by
  classical
  induction as using List.reverseRecOn with
  | nil => exact List.nodup_nil
  | append_singleton as a ih =>
    rw [eraseDups_concat]
    split
    · exact ih
    · next h =>
      have hnot : a ∉ as.eraseDups := mt List.mem_eraseDups.mp h
      rw [← List.concat_eq_append]
      exact ih.concat hnot

theorem length_eraseDups_le (as : List α) : as.eraseDups.length ≤ as.length := by
  classical
  induction as using List.reverseRecOn with
  | nil => exact Nat.le_refl 0
  | append_singleton as a ih =>
    rw [eraseDups_concat, List.length_append, List.length_singleton]
    split
    · omega
    · simpa using ih

/-- Nothing is left out where nothing comes twice, and only there. -/
theorem length_eraseDups_eq_iff (as : List α) : as.eraseDups.length = as.length ↔ as.Nodup := by
  classical
  induction as using List.reverseRecOn with
  | nil => simp
  | append_singleton as a ih =>
    have hle := length_eraseDups_le as
    have hnodup : (as ++ [a]).Nodup ↔ a ∉ as ∧ as.Nodup := by
      rw [← List.concat_eq_append, List.nodup_concat]
    rw [eraseDups_concat, List.length_append, List.length_singleton, hnodup]
    split
    · next h =>
      have hne : as.eraseDups.length ≠ as.length + 1 := by omega
      simp [hne, h]
    · next h => simp [h, ih]

end SearchQuery

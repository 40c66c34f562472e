import Mathlib.Data.List.Nodup
import Mathlib.Data.List.Perm.Subperm
import SearchQuery.Proofs.Json.Alike

/-! What values that compare as the same have in common. Objects that are the same hold the same
under every key, whatever the order of their members. Main statement: `rel_get?`. -/
namespace SearchQuery

theorem Entries.mem_of_get?_eq_some {α : Type} {entries : Entries α} {key : String} {value : α}
    (h : get? entries key = some value) : (key, value) ∈ entries := by
  induction entries with
  | nil => cases h
  | cons entry rest ih =>
    obtain ⟨k, v⟩ := entry
    by_cases he : k = key
    · simp only [get?, he, if_true, Option.some.injEq] at h
      simp [he, h]
    · simp only [get?, he, if_false] at h
      exact List.mem_cons_of_mem _ (ih h)

namespace Json

/-- One value, or two that compare as the same. A double that is no number does not compare as the
same as itself. -/
def SameAs (a b : Json) : Prop := a = b ∨ a.same b = true

/-- The keys of an object, in order. -/
def keys : Json → List String
  | .obj members => Entries.keys members
  | _ => []

variable {a b : Json}

/-! ### Members -/

theorem sameMembers_iff {as bs : Entries Json} :
    sameMembers as bs = true ↔
      ∀ member ∈ as, ∃ b, Entries.get? bs member.1 = some b ∧ member.2.same b = true := by
  induction as with
  | nil => simp [sameMembers]
  | cons member rest ih =>
    rw [Alike.sameMembers_cons, Bool.and_eq_true, ih, Option.any_eq_true, List.forall_mem_cons]

/-- No key of the second object is missing from the first, for they are equally many. -/
theorem keys_perm_of_same {as bs : Entries Json} (hlength : as.length = bs.length)
    (hmembers : sameMembers as bs = true) (distinct : (Entries.keys as).Nodup) :
    (Entries.keys as).Perm (Entries.keys bs) := by
  have hsubset : Entries.keys as ⊆ Entries.keys bs := by
    intro key hkey
    obtain ⟨member, hm, rfl⟩ := List.mem_map.mp hkey
    obtain ⟨b, hb, _⟩ := sameMembers_iff.mp hmembers member hm
    by_contra hnot
    rw [Entries.get?_eq_none_iff.mpr hnot] at hb
    cases hb
  exact (List.subperm_of_subset distinct hsubset).perm_of_length_le (by simp [Entries.keys, hlength])

theorem rel_get?_of_same {as bs : Entries Json} (h : same (.obj as) (.obj bs) = true)
    (distinct : (Entries.keys as).Nodup) (key : String) :
    Option.Rel SameAs (Entries.get? as key) (Entries.get? bs key) := by
  rw [same, Bool.and_eq_true, beq_iff_eq] at h
  obtain ⟨hlength, hmembers⟩ := h
  cases ha : Entries.get? as key with
  | some value =>
    obtain ⟨other, hother, hsame⟩ :=
      sameMembers_iff.mp hmembers _ (Entries.mem_of_get?_eq_some ha)
    rw [hother]
    exact .some (.inr hsame)
  | none =>
    have hnot : key ∉ Entries.keys bs :=
      mt (keys_perm_of_same hlength hmembers distinct).mem_iff.mpr
        (Entries.get?_eq_none_iff.mp ha)
    rw [Entries.get?_eq_none_iff.mpr hnot]
    exact .none

namespace SameAs

/-- The same stands under every key, or nothing under either. -/
theorem rel_get? (h : SameAs a b) (distinct : a.keys.Nodup) (key : String) :
    Option.Rel SameAs (a.get? key) (b.get? key) := by
  obtain rfl | h := h
  · cases a.get? key with
    | some value => exact .some (.inl rfl)
    | none => exact .none
  · match a, b, h with
    | .obj as, .obj bs, h => exact rel_get?_of_same h distinct key
    | .null, .null, _ | .bool _, .bool _, _ | .num _, .num _, _ | .str _, .str _, _
    | .arr _, .arr _, _ => exact .none

/-! ### Texts, numbers, and values built from them -/

theorem str_inj {s t : String} (h : SameAs (.str s) (.str t)) : s = t := by
  obtain h | h := h
  · exact Json.str.inj h
  · rwa [same, beq_iff_eq] at h

theorem ofNat_inj {m n : Nat} (h : SameAs (.ofNat m) (.ofNat n)) : m = n := by
  obtain h | h := h
  · exact Int.ofNat.inj (Number.int.inj (Json.num.inj h))
  · rw [ofNat, ofNat, same, Number.same, beq_iff_eq] at h
    exact Int.ofNat.inj h

theorem single_inj {key other : String} (h : SameAs (.single key a) (.single other b)) :
    key = other ∧ SameAs a b := by
  have hget := h.rel_get? (List.nodup_singleton key) key
  simp only [single, Json.get?, Entries.get?, if_true] at hget
  by_cases he : other = key
  · rw [if_pos he] at hget
    obtain ⟨hsame⟩ := hget
    exact ⟨he.symm, hsame⟩
  · rw [if_neg he] at hget
    cases hget

/-- Where the items of two lists come from what they determine, so do the lists. -/
theorem arr_map_inj {α : Type} {f : α → Json} (hf : ∀ x y, SameAs (f x) (f y) → x = y)
    {xs ys : List α} (h : SameAs (.arr (xs.map f)) (.arr (ys.map f))) : xs = ys := by
  obtain h | h := h
  · exact List.map_injective_iff.mpr (fun x y hxy => hf x y (.inl hxy)) (Json.arr.inj h)
  induction xs generalizing ys with
  | nil =>
    cases ys with
    | nil => rfl
    | cons y ys => cases h
  | cons x xs ih =>
    cases ys with
    | nil => cases h
    | cons y ys =>
      rw [same, List.map_cons, List.map_cons, sameItems, Bool.and_eq_true] at h
      rw [hf x y (.inr h.1), ih h.2]

theorem ofStrings_inj {xs ys : List String} (h : SameAs (.ofStrings xs) (.ofStrings ys)) :
    xs = ys :=
  arr_map_inj (fun _ _ => str_inj) h

end SameAs

end Json

end SearchQuery

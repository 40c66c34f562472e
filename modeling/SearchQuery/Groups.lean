/-! Values filed under keys. Each key has one group, and the groups stand in the order in which
their keys were first used. Main statements: `under_file`, `keys_file`, `size_file`,
`mem_values_file`. -/
namespace SearchQuery

abbrev Groups (κ α : Type) := List (κ × List α)

namespace Groups

variable {κ α : Type} [DecidableEq κ]

/-- The value goes to the end of its key's group, or starts a group at the end. -/
def file (key : κ) (a : α) : Groups κ α → Groups κ α
  | [] => [(key, [a])]
  | (k, as) :: rest => if k = key then (k, as ++ [a]) :: rest else (k, as) :: file key a rest

def under : Groups κ α → κ → List α
  | [], _ => []
  | (k, as) :: rest, key => if k = key then as else under rest key

omit [DecidableEq κ] in
/-- The number of values in all groups. -/
def size : Groups κ α → Nat
  | [] => 0
  | (_, as) :: rest => as.length + size rest

omit [DecidableEq κ] in
def keys (groups : Groups κ α) : List κ := groups.map (·.1)

omit [DecidableEq κ] in
/-- All values, group after group. -/
def values (groups : Groups κ α) : List α := groups.flatMap (·.2)

omit [DecidableEq κ] in
theorem keys_cons (group : κ × List α) (rest : Groups κ α) :
    keys (group :: rest) = group.1 :: keys rest := rfl

theorem under_file (key : κ) (a : α) (groups : Groups κ α) (other : κ) :
    under (file key a groups) other =
      if key = other then under groups other ++ [a] else under groups other := by
  induction groups with
  | nil => rfl
  | cons group rest ih =>
    obtain ⟨k, as⟩ := group
    by_cases h : k = key
    · subst h
      by_cases h' : k = other <;> simp [file, under, h']
    · by_cases h' : k = other
      · subst h'
        simp [file, under, h, Ne.symm h]
      · simp [file, under, h, h', ih]

theorem keys_file (key : κ) (a : α) (groups : Groups κ α) :
    keys (file key a groups) =
      if key ∈ keys groups then keys groups else keys groups ++ [key] := by
  induction groups with
  | nil => rfl
  | cons group rest ih =>
    obtain ⟨k, as⟩ := group
    by_cases h : k = key
    · simp [file, keys, h]
    · simp only [file, h, if_false, keys_cons, ih]
      by_cases h' : key ∈ keys rest <;> simp [h', Ne.symm h]

/-- Filing never starts a second group for a key. -/
theorem nodup_keys_file {key : κ} {a : α} {groups : Groups κ α} (h : (keys groups).Nodup) :
    (keys (file key a groups)).Nodup := by
  rw [keys_file]
  split
  · exact h
  · next hk =>
    refine List.nodup_append.mpr ⟨h, by simp, fun k hmem l hl => ?_⟩
    rw [List.mem_singleton.mp hl]
    rintro rfl
    exact hk hmem

theorem under_of_notMem {key : κ} {groups : Groups κ α} (h : key ∉ keys groups) :
    under groups key = [] := by
  induction groups with
  | nil => rfl
  | cons group rest ih =>
    obtain ⟨k, as⟩ := group
    rw [keys_cons, List.mem_cons, not_or] at h
    rw [under, if_neg (Ne.symm h.1), ih h.2]

/-- With one group to a key, each group is what its key finds. -/
theorem eq_map_under {groups : Groups κ α} (h : (keys groups).Nodup) :
    groups = (keys groups).map fun key => (key, under groups key) := by
  induction groups with
  | nil => rfl
  | cons group rest ih =>
    obtain ⟨k, as⟩ := group
    obtain ⟨hk, hrest⟩ := List.nodup_cons.mp h
    have hne : ∀ key ∈ keys rest, k ≠ key := fun key hmem he => hk (he ▸ hmem)
    simp only [keys_cons, List.map_cons, under, if_true, List.cons.injEq, true_and]
    refine (ih hrest).trans (List.map_congr_left fun key hmem => ?_)
    rw [if_neg (hne key hmem)]

theorem mem_values_file {key : κ} {a b : α} {groups : Groups κ α} :
    b ∈ values (file key a groups) ↔ b ∈ values groups ∨ b = a := by
  induction groups with
  | nil => simp [file, values]
  | cons group rest ih =>
    obtain ⟨k, as⟩ := group
    by_cases h : k = key
    · simp only [file, h, if_true, values, List.flatMap_cons, List.mem_append, List.mem_singleton]
      exact or_right_comm
    · simp only [values, List.flatMap_cons, List.mem_append] at ih ⊢
      simp only [file, h, if_false, List.flatMap_cons, List.mem_append, ih, or_assoc]

end Groups

end SearchQuery

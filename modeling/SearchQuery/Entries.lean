/-! Values under names, in the order in which the names were first written. Main statements:
`get?_insert`, `get?_insertAll`, `keys_insert`, `remove_perm`. -/
namespace SearchQuery

abbrev Entries (α : Type) := List (String × α)

namespace Entries

variable {α : Type}

def get? : Entries α → String → Option α
  | [], _ => none
  | (k, v) :: rest, key => if k = key then some v else get? rest key

def keys (entries : Entries α) : List String := entries.map (·.1)

/-- A name that is there already keeps its place. -/
def insert (key : String) (value : α) : Entries α → Entries α
  | [] => [(key, value)]
  | (k, v) :: rest => if k = key then (key, value) :: rest else (k, v) :: insert key value rest

def insertAll (entries added : Entries α) : Entries α :=
  added.foldl (fun acc (key, value) => insert key value acc) entries

/-- The last entry moves to the place of the removed one. -/
def remove (key : String) : Entries α → Entries α
  | [] => []
  | (k, v) :: rest =>
    if k = key then rest.getLast?.toList ++ rest.dropLast else (k, v) :: remove key rest

theorem keys_cons (entry : String × α) (rest : Entries α) :
    keys (entry :: rest) = entry.1 :: keys rest := rfl

theorem get?_eq_none_iff {entries : Entries α} {key : String} :
    get? entries key = none ↔ key ∉ keys entries := by
  induction entries with
  | nil => simp [get?, keys]
  | cons entry rest ih =>
    obtain ⟨k, v⟩ := entry
    by_cases h : k = key
    · simp [get?, keys, h]
    · simp [get?, keys_cons, h, Ne.symm h, ih]

theorem isSome_get? (entries : Entries α) (key : String) :
    (get? entries key).isSome = decide (key ∈ keys entries) := by
  rw [Bool.eq_iff_iff, Option.isSome_iff_ne_none, Ne, get?_eq_none_iff, decide_eq_true_iff]
  exact Decidable.not_not

theorem get?_insert (key : String) (value : α) (entries : Entries α) (other : String) :
    get? (insert key value entries) other =
      if key = other then some value else get? entries other := by
  induction entries with
  | nil => rfl
  | cons entry rest ih =>
    obtain ⟨k, v⟩ := entry
    by_cases h : k = key
    · subst h
      by_cases h' : k = other <;> simp [insert, get?, h']
    · by_cases h' : k = other
      · subst h'
        simp [insert, get?, h, Ne.symm h]
      · simp [insert, get?, h, h', ih]

/-- Of entries added under names of their own, each stands over what was there. -/
theorem get?_insertAll {added : Entries α} (h : (keys added).Nodup) (entries : Entries α)
    (key : String) :
    get? (insertAll entries added) key = (get? added key).or (get? entries key) := by
  induction added generalizing entries with
  | nil => rfl
  | cons entry rest ih =>
    obtain ⟨k, v⟩ := entry
    obtain ⟨hk, hrest⟩ := List.nodup_cons.mp h
    have hstep := ih hrest (insert k v entries)
    rw [get?_insert] at hstep
    by_cases he : k = key
    · subst he
      have hnone : get? rest k = none := get?_eq_none_iff.mpr hk
      rw [hnone, if_pos rfl] at hstep
      simpa [insertAll, get?] using hstep
    · rw [if_neg he] at hstep
      simpa [insertAll, get?, he] using hstep

theorem keys_insert (key : String) (value : α) (entries : Entries α) :
    keys (insert key value entries) =
      if key ∈ keys entries then keys entries else keys entries ++ [key] := by
  induction entries with
  | nil => rfl
  | cons entry rest ih =>
    obtain ⟨k, v⟩ := entry
    by_cases h : k = key
    · simp [insert, keys, h]
    · simp only [insert, h, if_false, keys_cons, ih]
      by_cases h' : key ∈ keys rest <;> simp [h', Ne.symm h]

/-- A new name comes last. -/
theorem insert_of_notMem {key : String} {entries : Entries α} (h : key ∉ keys entries)
    (value : α) : insert key value entries = entries ++ [(key, value)] := by
  induction entries with
  | nil => rfl
  | cons entry rest ih =>
    obtain ⟨k, v⟩ := entry
    rw [keys_cons, List.mem_cons, not_or] at h
    obtain ⟨hk, hrest⟩ := h
    rw [insert, if_neg (Ne.symm hk), ih hrest]
    rfl

theorem last_dropLast_perm (entries : Entries α) :
    (entries.getLast?.toList ++ entries.dropLast).Perm entries := by
  by_cases h : entries = []
  · subst h
    exact .nil
  · rw [List.getLast?_eq_some_getLast h]
    exact List.perm_append_comm.trans (.of_eq (List.dropLast_concat_getLast h))

/-- Where no name comes twice, all but the removed entry are left, in an order of their own. -/
theorem remove_perm {entries : Entries α} (h : (keys entries).Nodup) (key : String) :
    (remove key entries).Perm (entries.filter (·.1 != key)) := by
  induction entries with
  | nil => exact .refl _
  | cons entry rest ih =>
    obtain ⟨k, v⟩ := entry
    obtain ⟨hk, hrest⟩ := List.nodup_cons.mp h
    by_cases he : k = key
    · subst he
      have hall : rest.filter (·.1 != k) = rest := by
        refine List.filter_eq_self.mpr fun other hm => ?_
        have hne : other.1 ≠ k := fun heq => hk (List.mem_map.mpr ⟨other, hm, heq⟩)
        simpa using hne
      rw [remove, if_pos rfl, List.filter_cons_of_neg (by simp), hall]
      exact last_dropLast_perm rest
    · rw [remove, if_neg he, List.filter_cons_of_pos (by simpa using he)]
      exact (ih hrest).cons _

theorem nodup_keys_remove {entries : Entries α} (h : (keys entries).Nodup) (key : String) :
    (keys (remove key entries)).Nodup := by
  refine ((remove_perm h key).map _).nodup_iff.mpr ?_
  exact h.sublist (List.filter_sublist.map _)

end Entries

end SearchQuery

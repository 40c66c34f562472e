import Mathlib.Data.List.Nodup
import SearchQuery.Json.Reader
import SearchQuery.Proofs.Json.Alike
import SearchQuery.Proofs.Text.Yields

/-! JSON values whose objects have no key twice. All values that are read from text are of this kind,
and only of these is an object the same as the mapping from its keys to its values. Main statements:
`Distinct.path?`, `distinct_of_parse?`, `get?_remove`. -/
namespace SearchQuery

namespace Entries

variable {α : Type}

theorem nodup_keys_insert {entries : Entries α} (h : (keys entries).Nodup) (key : String)
    (value : α) : (keys (insert key value entries)).Nodup := by
  rw [keys_insert]
  split
  · exact h
  · next hkey =>
    rw [← List.concat_eq_append]
    exact h.concat hkey

theorem nodup_keys_insertAll {entries : Entries α} (h : (keys entries).Nodup)
    (added : Entries α) : (keys (insertAll entries added)).Nodup := by
  induction added generalizing entries with
  | nil => exact h
  | cons entry rest ih => exact ih (nodup_keys_insert h entry.1 entry.2)

theorem mem_insert {entries : Entries α} {key : String} {value : α} {entry : String × α}
    (h : entry ∈ insert key value entries) : entry = (key, value) ∨ entry ∈ entries := by
  induction entries with
  | nil => exact .inl (List.mem_singleton.mp h)
  | cons first rest ih =>
    obtain ⟨k, v⟩ := first
    by_cases hk : k = key
    · rw [insert, if_pos hk, List.mem_cons] at h
      exact h.imp_right (List.mem_cons_of_mem _)
    · rw [insert, if_neg hk, List.mem_cons] at h
      rcases h with rfl | h
      · exact .inr (List.mem_cons_self ..)
      · exact (ih h).imp_right (List.mem_cons_of_mem _)

theorem mem_insertAll {entries added : Entries α} {entry : String × α}
    (h : entry ∈ insertAll entries added) : entry ∈ added ∨ entry ∈ entries := by
  induction added generalizing entries with
  | nil => exact .inr h
  | cons first rest ih =>
    rcases ih h with hrest | hinsert
    · exact .inl (List.mem_cons_of_mem _ hrest)
    · rcases mem_insert hinsert with rfl | hold
      · exact .inl (List.mem_cons_self ..)
      · exact .inr hold

/-- Where no key comes twice, a removal is felt under the removed key only. -/
theorem get?_remove {entries : Entries α} (h : (keys entries).Nodup) (key other : String) :
    get? (remove key entries) other = if key = other then none else get? entries other := by
  have hperm := remove_perm h key
  have hnodup := nodup_keys_remove h key
  rw [get?_perm hnodup hperm]
  split
  · next he =>
    subst he
    rw [get?_eq_none_iff]
    intro hmem
    obtain ⟨entry, hentry, hkey⟩ := List.mem_map.mp hmem
    have hne := (List.mem_filter.mp hentry).2
    simp [hkey] at hne
  · next he =>
    ext value
    have hfiltered : (keys (entries.filter (·.1 != key))).Nodup :=
      (hperm.map _).nodup_iff.mp hnodup
    rw [get?_eq_some_iff_mem hfiltered, get?_eq_some_iff_mem h, List.mem_filter]
    simp [Ne.symm he]

end Entries

namespace Json

mutual

/-- No object has a key twice, at whatever depth. -/
def Distinct : Json → Prop
  | .arr items => DistinctItems items
  | .obj members => (Entries.keys members).Nodup ∧ DistinctMembers members
  | _ => True

def DistinctItems : List Json → Prop
  | [] => True
  | item :: rest => Distinct item ∧ DistinctItems rest

def DistinctMembers : List (String × Json) → Prop
  | [] => True
  | (_, value) :: rest => Distinct value ∧ DistinctMembers rest

end

theorem distinct_null : Distinct .null := trivial

theorem distinct_bool (value : Bool) : Distinct (.bool value) := trivial

theorem distinct_num (n : Number) : Distinct (.num n) := trivial

theorem distinct_str (text : String) : Distinct (.str text) := trivial

theorem distinct_arr_iff {items : List Json} :
    Distinct (.arr items) ↔ ∀ item ∈ items, item.Distinct := by
  rw [Distinct]
  induction items with
  | nil => simp [DistinctItems]
  | cons item rest ih => rw [DistinctItems, ih, List.forall_mem_cons]

theorem distinct_obj_iff {members : Entries Json} : Distinct (.obj members) ↔
    (Entries.keys members).Nodup ∧ ∀ member ∈ members, member.2.Distinct := by
  have hmembers : DistinctMembers members ↔ ∀ member ∈ members, member.2.Distinct := by
    induction members with
    | nil => simp [DistinctMembers]
    | cons member rest ih => rw [DistinctMembers, ih, List.forall_mem_cons]
  rw [Distinct, hmembers]

theorem Distinct.get? {json value : Json} (h : json.Distinct) {key : String}
    (hget : json.get? key = some value) : value.Distinct := by
  cases json with
  | obj members =>
    obtain ⟨hkeys, hvalues⟩ := distinct_obj_iff.mp h
    exact hvalues _ ((Entries.get?_eq_some_iff_mem hkeys).mp hget)
  | _ => cases hget

theorem Distinct.path? {json value : Json} (h : json.Distinct) {path : List String}
    (hpath : json.path? path = some value) : value.Distinct := by
  induction path generalizing json with
  | nil =>
    cases hpath
    exact h
  | cons key rest ih =>
    obtain ⟨inner, hinner, hrest⟩ := Option.bind_eq_some_iff.mp hpath
    exact ih (h.get? hinner) hrest

/-! ### Values read from text -/

theorem yields_lexeme {α : Type} {P : α → Prop} {scan : Scan α} (h : scan.Yields P) :
    (lexeme scan).Yields P :=
  h.bind fun _ ha => Scan.Yields.after _ fun _ => Scan.yields_pure ha

theorem yields_value (depth : Nat) : Scan.Yields Distinct (value depth) := by
  induction depth with
  | zero => exact fun _ _ _ h => nomatch h
  | succ depth ih =>
    have hmember : Scan.Yields (fun member : String × Json => member.2.Distinct) (do
        let key ← lexeme string
        lexeme (Scan.char ':')
        let item ← lexeme (value depth)
        return (key, item)) :=
      .after _ fun _ => .after _ fun _ => (yields_lexeme ih).bind fun _ h => Scan.yields_pure h
    have hitems := Scan.Yields.sepBy (yields_lexeme ih) (lexeme (Scan.char ','))
    have hmembers := Scan.Yields.sepBy hmember (lexeme (Scan.char ','))
    intro cs json rest hread
    rw [value] at hread
    refine Scan.Yields.after Scan.peek? (fun c => ?_) cs json rest hread
    split
    · exact .after _ fun _ => hitems.bind fun items h => .after _ fun _ =>
        Scan.yields_pure (distinct_arr_iff.mpr h)
    · refine .after _ fun _ => hmembers.bind fun members h => .after _ fun _ =>
        Scan.yields_pure (distinct_obj_iff.mpr ⟨?_, fun member hm => ?_⟩)
      · have hempty : (Entries.keys ([] : List (String × Json))).Nodup := List.nodup_nil
        exact Entries.nodup_keys_insertAll hempty members
      · rcases Entries.mem_insertAll hm with hadded | hnone
        · exact h member hadded
        · cases hnone
    · exact (Scan.yields_any string).map fun text _ => distinct_str text
    · exact .after _ fun _ => Scan.yields_pure distinct_null
    · exact .after _ fun _ => Scan.yields_pure (distinct_bool true)
    · exact .after _ fun _ => Scan.yields_pure (distinct_bool false)
    · exact (Scan.yields_any number).map fun n _ => distinct_num n

/-- Whatever text a value is read from, its objects have no key twice. -/
theorem distinct_of_parse? {s : String} {json : Json} (h : parse? s = some json) :
    json.Distinct :=
  Scan.Yields.all? (.after _ fun _ => yields_lexeme (yields_value _)) h

end Json

end SearchQuery

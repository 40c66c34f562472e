import Mathlib.Data.List.Forall2
import SearchQuery.Json.Same

/-! JSON values that differ in the order of members only, at any depth. Main statements: `arr`,
`obj`, the relation passes through lists and objects; `same_eq`, alike values are the same as the
same values. -/
namespace SearchQuery

namespace Entries

variable {α : Type}

theorem get?_eq_some_iff_mem {entries : Entries α} (h : (keys entries).Nodup) {key : String}
    {value : α} : get? entries key = some value ↔ (key, value) ∈ entries := by
  induction entries with
  | nil => simp [get?]
  | cons entry rest ih =>
    obtain ⟨k, v⟩ := entry
    obtain ⟨hk, hrest⟩ := List.nodup_cons.mp h
    by_cases he : k = key
    · subst he
      have hnot : (k, value) ∉ rest := fun hm => hk (List.mem_map.mpr ⟨_, hm, rfl⟩)
      simp [get?, hnot, eq_comm]
    · simp [get?, he, Ne.symm he, ih hrest]

/-- Where no name comes twice, the order of the entries does not matter. -/
theorem get?_perm {entries entries' : Entries α} (h : (keys entries).Nodup)
    (hp : entries.Perm entries') (key : String) : get? entries key = get? entries' key := by
  have h' : (keys entries').Nodup := (hp.map _).nodup_iff.mp h
  ext value
  rw [get?_eq_some_iff_mem h, get?_eq_some_iff_mem h', hp.mem_iff]

end Entries

namespace Json

inductive Alike : Json → Json → Prop
  | refl (json : Json) : Alike json json
  | trans {a b c : Json} (first : Alike a b) (second : Alike b c) : Alike a c
  | item {a b : Json} (before after : List Json) (inner : Alike a b) :
      Alike (.arr (before ++ a :: after)) (.arr (before ++ b :: after))
  | member {a b : Json} (before : Entries Json) (key : String) (after : Entries Json)
      (inner : Alike a b) :
      Alike (.obj (before ++ (key, a) :: after)) (.obj (before ++ (key, b) :: after))
  | reorder {members members' : Entries Json} (distinct : (Entries.keys members).Nodup)
      (order : members.Perm members') : Alike (.obj members) (.obj members')

namespace Alike

/-! ### Lists and objects -/

theorem arr_append (before : List Json) {as bs : List Json} (h : List.Forall₂ Alike as bs) :
    Alike (.arr (before ++ as)) (.arr (before ++ bs)) := by
  induction h generalizing before with
  | nil => exact .refl _
  | @cons a b as bs hab _ ih =>
    have hrest := ih (before ++ [b])
    rw [List.append_assoc, List.append_assoc] at hrest
    exact .trans (.item before as hab) hrest

theorem arr {as bs : List Json} (h : List.Forall₂ Alike as bs) : Alike (.arr as) (.arr bs) :=
  arr_append [] h

/-- The same key, with alike values. -/
def Member (a b : String × Json) : Prop := a.1 = b.1 ∧ Alike a.2 b.2

theorem obj_append (before : Entries Json) {as bs : Entries Json}
    (h : List.Forall₂ Member as bs) : Alike (.obj (before ++ as)) (.obj (before ++ bs)) := by
  induction h generalizing before with
  | nil => exact .refl _
  | @cons a b as bs hab _ ih =>
    obtain ⟨key, a⟩ := a
    obtain ⟨key', b⟩ := b
    obtain ⟨rfl, hvalue⟩ := hab
    have hrest := ih (before ++ [(key, b)])
    rw [List.append_assoc, List.append_assoc] at hrest
    exact .trans (.member before key as hvalue) hrest

theorem obj {as bs : Entries Json} (h : List.Forall₂ Member as bs) :
    Alike (.obj as) (.obj bs) :=
  obj_append [] h

theorem single (key : String) {a b : Json} (h : Alike a b) :
    Alike (.single key a) (.single key b) :=
  .member [] key [] h

instance : Std.Refl Alike := ⟨.refl⟩

theorem forall₂_trans {as bs cs : List Json} (h : List.Forall₂ Alike as bs)
    (h' : List.Forall₂ Alike bs cs) : List.Forall₂ Alike as cs := by
  induction h generalizing cs with
  | nil => exact h'
  | cons hab _ ih =>
    cases h' with
    | cons hbc hrest => exact .cons (.trans hab hbc) (ih hrest)

/-! ### What alike values share -/

theorem get?_isSome {a b : Json} (h : Alike a b) (key : String) :
    (a.get? key).isSome = (b.get? key).isSome := by
  induction h with
  | refl json => rfl
  | trans _ _ ih ih' => exact ih.trans ih'
  | item before after inner ih => rfl
  | @member a b before k after inner ih =>
    have hkeys : Entries.keys (before ++ (k, a) :: after) =
        Entries.keys (before ++ (k, b) :: after) := by
      simp [Entries.keys]
    rw [Json.get?, Json.get?, Entries.isSome_get?, Entries.isSome_get?, hkeys]
  | reorder distinct order => rw [Json.get?, Json.get?, Entries.get?_perm distinct order]

theorem sameItems_congr {a b : Json} (h : ∀ json : Json, json.same a = json.same b)
    (before after items : List Json) :
    sameItems items (before ++ a :: after) = sameItems items (before ++ b :: after) := by
  induction before generalizing items with
  | nil =>
    cases items with
    | nil => rfl
    | cons item rest => rw [List.nil_append, List.nil_append, sameItems, sameItems, h]
  | cons first before ih =>
    cases items with
    | nil => rfl
    | cons item rest => rw [List.cons_append, List.cons_append, sameItems, sameItems, ih]

theorem sameMembers_cons (key : String) (json : Json) (rest members : Entries Json) :
    sameMembers ((key, json) :: rest) members =
      ((Entries.get? members key).any json.same && sameMembers rest members) := by
  rw [sameMembers]
  cases Entries.get? members key <;> rfl

/-- The entries of an object count by what their keys find. -/
theorem sameMembers_congr {as bs : Entries Json}
    (h : ∀ (key : String) (json : Json),
      (Entries.get? as key).any json.same = (Entries.get? bs key).any json.same)
    (members : Entries Json) : sameMembers members as = sameMembers members bs := by
  induction members with
  | nil => rfl
  | cons member rest ih =>
    obtain ⟨key, json⟩ := member
    rw [sameMembers_cons, sameMembers_cons, ih, h key json]

theorem any_get?_append {a b : Json} (h : ∀ json : Json, json.same a = json.same b)
    (before : Entries Json) (k : String) (after : Entries Json) (key : String) (json : Json) :
    (Entries.get? (before ++ (k, a) :: after) key).any json.same =
      (Entries.get? (before ++ (k, b) :: after) key).any json.same := by
  induction before with
  | nil => by_cases hk : k = key <;> simp [Entries.get?, hk, h]
  | cons member before ih =>
    obtain ⟨k', value⟩ := member
    by_cases hk : k' = key
    · simp [Entries.get?, hk]
    · simpa [Entries.get?, hk] using ih

/-- No value compares equal to one of two alike values and not to the other. -/
theorem same_eq {a b : Json} (h : Alike a b) (json : Json) : json.same a = json.same b := by
  induction h generalizing json with
  | refl _ => rfl
  | trans _ _ ih ih' => exact (ih json).trans (ih' json)
  | item before after inner ih =>
    cases json with
    | arr items => exact sameItems_congr ih before after items
    | _ => rfl
  | member before key after inner ih =>
    cases json with
    | obj members =>
      rw [same, same, sameMembers_congr (any_get?_append ih before key after), List.length_append,
        List.length_append, List.length_cons, List.length_cons]
    | _ => rfl
  | reorder distinct order =>
    cases json with
    | obj members =>
      have hget := fun key json => congrArg (Option.any (same json))
        (Entries.get?_perm distinct order key)
      rw [same, same, sameMembers_congr hget, order.length_eq]
    | _ => rfl

end Alike

end Json

end SearchQuery

import SearchQuery.Proofs.Json.Alike
import SearchQuery.Proofs.Query.Tree

/-! Sets that have alike clauses under each occurrence have alike trees and alike queries. Neither
the order in which the occurrences were first used nor one that is left without clauses makes a
difference. Main statements: `tree_alike`, `query_alike`. -/
namespace SearchQuery

open Json (Alike)

variable {a b : Json} {as bs : List Json}

theorem isBuckets_congr (h : Alike a b) : a.isBuckets = b.isBuckets := by
  have hkey : (fun occur : Occur => (a.get? occur.name).isSome) =
      fun occur => (b.get? occur.name).isSome := by
    funext occur
    exact h.get?_isSome occur.name
  rw [Json.isBuckets, Json.isBuckets, hkey]

theorem wrap_alike (h : Alike a b) : Alike (wrap a) (wrap b) :=
  .single "bool" h

theorem wrapBuckets_alike (h : Alike a b) : Alike (wrapBuckets a) (wrapBuckets b) := by
  rw [wrapBuckets, wrapBuckets, isBuckets_congr h]
  split
  · exact wrap_alike h
  · exact h

theorem bucket_alike (occur : Occur) (h : List.Forall₂ Alike as bs) :
    Alike (bucket occur as) (bucket occur bs) := by
  have hlist : Alike (.arr (as.map wrapBuckets)) (.arr (bs.map wrapBuckets)) := by
    refine .arr ?_
    rw [List.forall₂_map_left_iff, List.forall₂_map_right_iff]
    exact h.imp fun _ _ hab => wrapBuckets_alike hab
  -- a single clause under filter is the one exception to the list
  match occur, h with
  | .filter, .cons hab .nil =>
    rw [bucket, bucket, isBuckets_congr hab]
    split
    · exact wrap_alike hab
    · exact .arr (.cons hab .nil)
  | .filter, .nil => exact hlist
  | .filter, .cons _ (.cons _ _) => exact hlist
  | .must, _ => exact hlist
  | .mustNot, _ => exact hlist
  | .should, _ => exact hlist

theorem member?_alike (occur : Occur) (h : List.Forall₂ Alike as bs) :
    Option.Rel Alike.Member (member? occur as) (member? occur bs) := by
  have hbucket := bucket_alike occur h
  cases h with
  | nil => exact .none
  | cons hab hrest => exact .some ⟨rfl, hbucket⟩

namespace ConditionSet

variable {set other : ConditionSet}

/-- The clauses that are left under an occurrence. -/
def clauses (set : ConditionSet) (occur : Occur) : List Json := clausesOf (set.under occur)

theorem clauses_of_notMem {occur : Occur} (h : occur ∉ Groups.keys set.groups) :
    set.clauses occur = [] := by
  rw [clauses, under, Groups.under_of_notMem h]
  rfl

theorem members_eq_filterMap (h : (Groups.keys set.groups).Nodup) :
    set.members =
      (Groups.keys set.groups).filterMap fun occur => member? occur (set.clauses occur) := by
  unfold members
  conv_lhs => rw [Groups.eq_map_under h]
  rw [List.filterMap_map]
  rfl

/-- The members of a bucket map, in an order of their own. -/
theorem members_perm (h : (Groups.keys set.groups).Nodup) :
    set.members.Perm (Occur.all.filterMap fun occur => member? occur (set.clauses occur)) := by
  have hall : Occur.all.Nodup := by decide
  have hkeys : (Groups.keys set.groups).Perm (Occur.all.filter (· ∈ Groups.keys set.groups)) := by
    refine (List.perm_ext_iff_of_nodup h (hall.filter _)).mpr fun occur => ?_
    have hmem : occur ∈ Occur.all := by cases occur <;> decide
    simp [hmem]
  rw [members_eq_filterMap h]
  refine (hkeys.filterMap _).trans (.of_eq ?_)
  rw [List.filterMap_filter]
  refine List.filterMap_congr fun occur _ => ?_
  by_cases hk : occur ∈ Groups.keys set.groups
  · simp [hk]
  · simp [hk, clauses_of_notMem hk, member?]

/-- Sets with one group to an occurrence. -/
theorem members_alike (hset : (Groups.keys set.groups).Nodup)
    (hother : (Groups.keys other.groups).Nodup)
    (h : ∀ occur, List.Forall₂ Alike (set.clauses occur) (other.clauses occur)) :
    Alike (.obj set.members) (.obj other.members) ∧
      set.members.length = other.members.length := by
  have hrel : List.Forall₂ Alike.Member
      (Occur.all.filterMap fun occur => member? occur (set.clauses occur))
      (Occur.all.filterMap fun occur => member? occur (other.clauses occur)) := by
    refine List.rel_filterMap (R := Eq) ?_ (List.forall₂_eq_eq_eq ▸ rfl)
    rintro occur _ rfl
    exact member?_alike occur (h occur)
  have hfirst := members_perm hset
  have hlast := members_perm hother
  refine ⟨.trans (.reorder (nodup_keys_members hset) hfirst) (.trans (.obj hrel) ?_), ?_⟩
  · exact .reorder ((hlast.map _).nodup_iff.mp (nodup_keys_members hother)) hlast.symm
  · rw [hfirst.length_eq, hrel.length_eq, hlast.length_eq]

end ConditionSet

/-! ### Trees and queries -/

theorem joinBuckets_alike {members members' : Entries Json}
    (h : Alike (.obj members) (.obj members')) (hlength : members.length = members'.length) :
    Alike (joinBuckets members) (joinBuckets members') := by
  match members, members' with
  | [], [] => exact .refl _
  | [_], [_] => exact h
  | _ :: _ :: _, _ :: _ :: _ => exact wrap_alike h

namespace ConditionSet

variable {set other : ConditionSet}

theorem tree_alike (hset : (Groups.keys set.groups).Nodup)
    (hother : (Groups.keys other.groups).Nodup)
    (h : ∀ occur, List.Forall₂ Alike (set.clauses occur) (other.clauses occur)) :
    Alike set.tree.value other.tree.value := by
  obtain ⟨hmembers, hlength⟩ := members_alike hset hother h
  rw [tree_value hset, tree_value hother]
  exact joinBuckets_alike hmembers hlength

theorem query_alike (hset : (Groups.keys set.groups).Nodup)
    (hother : (Groups.keys other.groups).Nodup)
    (h : ∀ occur, List.Forall₂ Alike (set.clauses occur) (other.clauses occur)) :
    Alike set.query.value other.query.value := by
  obtain ⟨hmembers, hlength⟩ := members_alike hset hother h
  have hempty : set.members.isEmpty = other.members.isEmpty := by
    rw [Bool.eq_iff_iff, List.isEmpty_iff_length_eq_zero, List.isEmpty_iff_length_eq_zero, hlength]
  rw [query_value hset, query_value hother, hempty]
  split
  · exact .refl _
  · exact wrap_alike hmembers

end ConditionSet

end SearchQuery

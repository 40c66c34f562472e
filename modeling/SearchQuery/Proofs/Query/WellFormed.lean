import Mathlib.Data.List.Nodup
import SearchQuery.Proofs.Query.Reading

/-! The form of a query. A bool object has at least one bucket and none twice; a bucket is a list of
clauses, or under filter a bool object of a single bucket; a clause is that of one condition or a
bool object. Main statement: `wellFormed_query`, every compiled query has this form. -/
namespace SearchQuery

mutual

inductive IsClause : Json → Prop
  | leaf {kind : String} (known : kind ∈ leafKinds) (body : Json) : IsClause (.single kind body)
  | bool {members : Entries Json} (inner : WellFormed members) : IsClause (wrap (.obj members))

/-- What stands under the key of a bool object. -/
inductive IsBucket : String → Json → Prop
  | list (occur : Occur) {clauses : List Json} (nonempty : clauses ≠ [])
      (each : ∀ clause ∈ clauses, IsClause clause) : IsBucket occur.name (.arr clauses)
  | lone {member : String × Json} (inner : WellFormed [member]) :
      IsBucket Occur.filter.name (wrap (.obj [member]))

/-- The members of a bool object. -/
inductive WellFormed : Entries Json → Prop
  | intro {members : Entries Json} (nonempty : members ≠ [])
      (distinct : (Entries.keys members).Nodup)
      (each : ∀ member ∈ members, IsBucket member.1 member.2) : WellFormed members

end

/-- The clauses of a query at every depth, the query itself among them. -/
inductive Json.HasClause (query : Json) : Json → Prop
  | self : HasClause query query
  | inside {members : Entries Json} {member : String × Json} {clause : Json}
      (outer : HasClause query (wrap (.obj members))) (bucket : member ∈ members)
      (element : clause ∈ member.2.clauses) : HasClause query clause

/-! ### What the form excludes -/

theorem IsBucket.key_eq {key : String} {value : Json} (h : IsBucket key value) :
    ∃ o : Occur, key = o.name := by
  cases h with
  | list occur _ _ => exact ⟨occur, rfl⟩
  | lone _ => exact ⟨.filter, rfl⟩

theorem IsBucket.isClause {key : String} {value clause : Json} (h : IsBucket key value)
    (hc : clause ∈ value.clauses) : IsClause clause := by
  cases h with
  | list _ _ each => exact each clause hc
  | lone inner =>
    rw [List.mem_singleton.mp hc]
    exact .bool inner

theorem WellFormed.namedByOccur {members : Entries Json} (h : WellFormed members) :
    NamedByOccur members := by
  obtain ⟨_, _, each⟩ := h
  intro key hkey
  obtain ⟨member, hm, rfl⟩ := List.mem_map.mp hkey
  exact (each member hm).key_eq

namespace IsClause

/-- A clause of a list is never a bare bucket map. -/
theorem isBuckets_eq_false {clause : Json} (h : IsClause clause) : clause.isBuckets = false := by
  cases h with
  | leaf known body => exact isBuckets_of_kind known body
  | bool _ => exact isBuckets_wrap _

theorem wellFormed_of_wrap {members : Entries Json} (h : IsClause (wrap (.obj members))) :
    WellFormed members := by
  generalize hj : wrap (.obj members) = json at h
  cases h with
  | @leaf kind known body =>
    simp only [wrap, Json.single, Json.obj.injEq, List.cons.injEq, Prod.mk.injEq, and_true] at hj
    exact absurd (hj.1 ▸ known) (by decide)
  | bool inner =>
    simp only [wrap, Json.single, Json.obj.injEq, List.cons.injEq, Prod.mk.injEq, and_true,
      true_and] at hj
    exact hj ▸ inner

theorem of_hasClause {query clause : Json} (hq : IsClause query) (h : query.HasClause clause) :
    IsClause clause := by
  induction h with
  | self => exact hq
  | inside _ bucket element ih =>
    obtain ⟨_, _, each⟩ := ih.wellFormed_of_wrap
    exact (each _ bucket).isClause element

end IsClause

/-- No bool object holds a key bool. -/
theorem WellFormed.get?_bool {members : Entries Json} (h : WellFormed members) :
    (Json.obj members).get? "bool" = none := by
  refine Entries.get?_eq_none_iff.mpr fun hkey => ?_
  obtain ⟨o, ho⟩ := h.namedByOccur _ hkey
  exact o.name_ne_bool ho.symm

/-! ### Compiled queries -/

/-- What a condition compiles to: a clause, or the bare map of a single bucket. -/
def IsTree (tree : Json) : Prop :=
  IsClause tree ∨ ∃ member, tree = .obj [member] ∧ WellFormed [member]

theorem isClause_matchAll : IsClause matchAll := .leaf (by decide) _

namespace IsTree

variable {tree : Json}

theorem isClause_wrapBuckets (h : IsTree tree) : IsClause (wrapBuckets tree) := by
  obtain h | ⟨member, rfl, h⟩ := h
  · rw [wrapBuckets, h.isBuckets_eq_false]
    exact h
  · rw [wrapBuckets, isBuckets_bare h.namedByOccur]
    exact .bool h

theorem bare_of_isBuckets (h : IsTree tree) (hb : tree.isBuckets = true) :
    ∃ member, tree = .obj [member] ∧ WellFormed [member] := by
  obtain h | h := h
  · rw [h.isBuckets_eq_false] at hb
    cases hb
  · exact h

theorem isBucket_list (occur : Occur) {clauses : List Json} (hne : clauses ≠ [])
    (h : ∀ clause ∈ clauses, IsTree clause) :
    IsBucket occur.name (.arr (clauses.map wrapBuckets)) := by
  refine .list occur (by simpa using hne) fun clause hc => ?_
  obtain ⟨tree, ht, rfl⟩ := List.mem_map.mp hc
  exact (h tree ht).isClause_wrapBuckets

theorem isBucket_bucket (occur : Occur) {clauses : List Json} (hne : clauses ≠ [])
    (h : ∀ clause ∈ clauses, IsTree clause) : IsBucket occur.name (bucket occur clauses) := by
  have hlist := isBucket_list occur hne h
  unfold bucket
  split
  · next clause =>
    have hc : IsTree clause := h clause (List.mem_singleton_self clause)
    cases hb : clause.isBuckets with
    | true =>
      obtain ⟨member, rfl, hm⟩ := hc.bare_of_isBuckets hb
      exact .lone hm
    | false => simpa [wrapBuckets, hb] using hlist
  · exact hlist

theorem joinBuckets {members : Entries Json} (h : members ≠ [] → WellFormed members) :
    IsTree (joinBuckets members) := by
  obtain ⟨rfl, hj⟩ | ⟨member, rfl, hj⟩ | ⟨hne, hj⟩ := joinBuckets_cases members
  · exact hj ▸ .inl isClause_matchAll
  · exact hj ▸ .inr ⟨member, rfl, h (List.cons_ne_nil _ _)⟩
  · exact hj ▸ .inl (.bool (h hne))

end IsTree

/-- Once the nested sets are well formed, so are the buckets. -/
theorem ConditionSet.wellFormed_of_nested {set : ConditionSet} (hset : set.Reachable)
    (h : ∀ child : ConditionSet, child.NestedIn set → IsTree child.tree.value)
    (hne : set.members ≠ []) : WellFormed set.members := by
  refine .intro hne (nodup_keys_members hset.nodup_keys) fun member hm => ?_
  obtain ⟨group, hgroup, hclauses, rfl⟩ := mem_members_iff.mp hm
  refine IsTree.isBucket_bucket group.1 hclauses fun clause hc => ?_
  obtain ⟨c, hmem, hcompile⟩ := List.mem_filterMap.mp hc
  cases hchild : c.child? with
  | some child =>
    rw [Condition.compile_of_child hchild, Option.some.injEq] at hcompile
    have hnested : child.NestedIn set :=
      ⟨c, List.mem_flatMap.mpr ⟨group, hgroup, hmem⟩, Condition.subject_of_child? hchild⟩
    exact hcompile ▸ h child hnested
  | none =>
    rw [Condition.compile_of_leaf hchild] at hcompile
    obtain ⟨kind, known, body, rfl⟩ := Condition.clause?_kind hcompile
    exact .inl (.leaf known body)

theorem ConditionSet.isTree_tree {set : ConditionSet} (h : set.Reachable) :
    IsTree set.tree.value := by
  refine h.induct_nested (P := fun set => IsTree set.tree.value) fun set hset ih => ?_
  rw [tree_value hset.nodup_keys]
  exact .joinBuckets (wellFormed_of_nested hset ih)

theorem wellFormed_matchAll : WellFormed [("must", .arr [matchAll])] := by
  refine .intro (List.cons_ne_nil _ _) (List.nodup_singleton _) fun member hmember => ?_
  rw [List.mem_singleton.mp hmember]
  refine .list .must (List.cons_ne_nil _ _) fun clause hclause => ?_
  rw [List.mem_singleton.mp hclause]
  exact isClause_matchAll

theorem ConditionSet.wellFormed_value {set : ConditionSet} (h : set.Reachable) :
    ∃ members, set.query.value = wrap (.obj members) ∧ WellFormed members := by
  refine ⟨_, query_value h.nodup_keys, ?_⟩
  have hm := wellFormed_of_nested h fun child hc => isTree_tree (h.of_nestedIn hc)
  split
  · exact wellFormed_matchAll
  · next hne => exact hm fun he => hne (List.isEmpty_iff.mpr he)

/-- Every compiled query is one well-formed bool object. At no depth is a bare bucket map among its
clauses, or a bool directly inside a bool. -/
theorem ConditionSet.wellFormed_query {set : ConditionSet} (h : set.Reachable) :
    (∃ members, set.query.value = wrap (.obj members) ∧ WellFormed members) ∧
      ∀ clause, set.query.value.HasClause clause →
        clause.isBuckets = false ∧
          ∀ members, clause = wrap (.obj members) → (Json.obj members).get? "bool" = none := by
  obtain ⟨members, hq, hwf⟩ := wellFormed_value h
  refine ⟨⟨members, hq, hwf⟩, fun clause hclause => ?_⟩
  have hc : IsClause clause := .of_hasClause (hq ▸ .bool hwf) hclause
  refine ⟨hc.isBuckets_eq_false, fun inner he => ?_⟩
  exact WellFormed.get?_bool (IsClause.wellFormed_of_wrap (he ▸ hc))

/-- A field and its value that read like parts of a query, alone under filter. -/
def lookalikeSteps : List Step :=
  [.filterNested [.whereEq (.field "bool") (.single "must" (.arr [matchAll]))]]

def ConditionSet.lookalikes : ConditionSet := (gather lookalikeSteps .empty).value

theorem ConditionSet.wellFormed_query_lookalikes :
    lookalikes.Reachable ∧
      (∃ members, lookalikes.query.value = wrap (.obj members) ∧ WellFormed members) ∧
        ∀ clause, lookalikes.query.value.HasClause clause →
          clause.isBuckets = false ∧
            ∀ members, clause = wrap (.obj members) → (Json.obj members).get? "bool" = none :=
  have h : lookalikes.Reachable := reachable_gather lookalikeSteps .empty .empty
  ⟨h, wellFormed_query h⟩

end SearchQuery

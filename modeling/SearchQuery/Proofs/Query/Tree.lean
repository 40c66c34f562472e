import SearchQuery.Condition.Query
import SearchQuery.Proofs.Condition.Reachable

/-! The tree of a set of conditions, without its log and step by step: the clauses of each
occurrence, the members of the bucket map that they make, and the two forms in which that map
appears, as one clause among others and as a whole query. Main statements: `tree_value`,
`wrapBuckets_joinBuckets`, `asQuery_joinBuckets`. -/
namespace SearchQuery

/-! ### Clauses of one condition -/

/-- The kinds of clause that a single condition has. -/
def leafKinds : List String :=
  ["term", "terms", "match", "multi_match", "range", "exists", "missing", "match_all"]

theorem Operator.other_or_known (operator : Operator) :
    (∃ text, operator = .other text) ∨ ∀ text, operator ≠ .other text := by
  cases operator with
  | other text => exact .inl ⟨text, rfl⟩
  | _ => exact .inr nofun

namespace Condition

/-- The set that a nested condition stands for. -/
def child? : Condition → Option ConditionSet
  | ⟨_, .nested conditions, .nested, _, _⟩ => some conditions
  | _ => none

theorem subject_of_child? {c : Condition} {child : ConditionSet} (h : c.child? = some child) :
    c.subject = .nested child := by
  unfold child? at h
  split at h
  · cases h
    rfl
  · cases h

theorem child?_eq_none {c : Condition}
    (h : ∀ occur child value boost, c = ⟨occur, .nested child, .nested, value, boost⟩ → False) :
    c.child? = none := by
  unfold child?
  split
  · exact (h _ _ _ _ rfl).elim
  · rfl

theorem translate_value (c : Condition) : c.translate.value = c.clause? := by
  unfold translate
  split <;> rfl

theorem leaf_value (c : Condition) : c.leaf.value = c.clause? := by
  rw [leaf, Logged.value_bind, translate_value]
  split <;> rfl

theorem compile_of_child {c : Condition} {child : ConditionSet} (h : c.child? = some child) :
    c.compile.value = some child.tree.value := by
  unfold child? at h
  split at h
  · cases h
    rw [compile, Logged.value_bind, Logged.value_pure]
  · cases h

theorem compile_of_leaf {c : Condition} (h : c.child? = none) : c.compile.value = c.clause? := by
  unfold child? at h
  split at h
  · cases h
  · next hne =>
    rw [compile]
    · exact leaf_value c
    · exact hne

theorem fieldClause?_kind {c : Condition} {kind : String} {inner clause : Json}
    (h : c.fieldClause? kind inner = some clause) : ∃ body, clause = .single kind body := by
  unfold fieldClause? at h
  split at h
  · cases h
  · obtain ⟨field, _, rfl⟩ := Option.map_eq_some_iff.mp h
    exact ⟨_, rfl⟩

theorem presenceClause?_kind {c : Condition} {kind : String} {clause : Json}
    (h : c.presenceClause? kind = some clause) : ∃ body, clause = .single kind body := by
  obtain ⟨field, _, rfl⟩ := Option.map_eq_some_iff.mp h
  exact ⟨_, rfl⟩

/-- The kind of a condition's clause, the key under which it stands. -/
def kind (c : Condition) : String :=
  match c.operator with
  | .term => if c.value.isArray then "terms" else "term"
  | .terms => "terms"
  | .fullText =>
    match c.subject with
    | .fields _ => "multi_match"
    | _ => "match"
  | .range _ => "range"
  | .present => "exists"
  | .absent => "missing"
  | .nested => "bool"
  | .other _ => "match_all"

theorem kind_mem_leafKinds {c : Condition} (own : c.operator ≠ .nested) : c.kind ∈ leafKinds := by
  unfold kind
  split
  · split <;> decide
  · decide
  · split <;> decide
  · decide
  · decide
  · decide
  · next ho => exact absurd ho own
  · decide

theorem kind_ne_matchAll {c : Condition} (known : ∀ text, c.operator ≠ .other text) :
    c.kind ≠ "match_all" := by
  unfold kind
  split
  · split <;> decide
  · decide
  · split <;> decide
  · decide
  · decide
  · decide
  · decide
  · next text ho => exact absurd ho (known text)

theorem fullTextClause?_eq_single {c : Condition} {clause : Json} (ho : c.operator = .fullText)
    (h : c.fullTextClause? = some clause) : ∃ body, clause = .single c.kind body := by
  unfold fullTextClause? at h
  cases hs : c.subject with
  | fields names =>
    simp only [hs] at h
    simp only [kind, ho, hs]
    split at h
    · cases h
    · exact ⟨_, (Option.some.inj h).symm⟩
  | field name | nested child =>
    simp only [hs] at h
    simp only [kind, ho, hs]
    exact fieldClause?_kind h

/-- Whatever its field and value, the clause of a condition is an object of one member, and the
member's key is the kind of the clause. -/
theorem clause?_eq_single {c : Condition} {clause : Json} (h : c.clause? = some clause) :
    ∃ body, clause = .single c.kind body := by
  unfold clause? at h
  cases ho : c.operator with
  | term | terms | range bound =>
    simp only [ho] at h
    simp only [kind, ho]
    exact fieldClause?_kind h
  | fullText =>
    simp only [ho] at h
    exact fullTextClause?_eq_single ho h
  | present | absent =>
    simp only [ho] at h
    simp only [kind, ho]
    exact presenceClause?_kind h
  | nested =>
    simp only [ho] at h
    cases h
  | other text =>
    simp only [ho] at h
    simp only [kind, ho]
    exact ⟨_, (Option.some.inj h).symm⟩

theorem clause?_kind {c : Condition} {clause : Json} (h : c.clause? = some clause) :
    ∃ kind ∈ leafKinds, ∃ body, clause = .single kind body := by
  have own : c.operator ≠ .nested := fun ho => by
    rw [clause?, ho] at h
    cases h
  exact ⟨c.kind, kind_mem_leafKinds own, clause?_eq_single h⟩

end Condition

/-! ### Bucket maps -/

theorem Occur.name_injective {o o' : Occur} (h : o.name = o'.name) : o = o' := by
  cases o <;> cases o' <;> first | rfl | exact absurd h (by decide)

theorem Occur.name_notMem_leafKinds (o : Occur) : o.name ∉ leafKinds := by
  cases o <;> decide

theorem Occur.name_ne_bool (o : Occur) : o.name ≠ "bool" := by
  cases o <;> decide

theorem isBuckets_single {key : String} {value : Json} :
    (Json.single key value).isBuckets = true ↔ ∃ o : Occur, key = o.name := by
  simp only [Json.isBuckets, List.any_eq_true, Json.single, Json.get?, Entries.get?]
  constructor
  · rintro ⟨o, _, ho⟩
    refine ⟨o, ?_⟩
    by_cases hk : key = o.name
    · exact hk
    · rw [if_neg hk] at ho
      cases ho
  · rintro ⟨o, rfl⟩
    exact ⟨o, by cases o <;> decide, by rw [if_pos rfl]; rfl⟩

theorem isBuckets_wrap (json : Json) : (wrap json).isBuckets = false := by
  rw [Bool.eq_false_iff, Ne, wrap, isBuckets_single]
  rintro ⟨o, ho⟩
  exact o.name_ne_bool ho.symm

/-- A clause of one condition is not taken for a bucket map, whatever it is about. -/
theorem isBuckets_of_kind {kind : String} (h : kind ∈ leafKinds) (body : Json) :
    (Json.single kind body).isBuckets = false := by
  rw [Bool.eq_false_iff, Ne, isBuckets_single]
  rintro ⟨o, rfl⟩
  exact o.name_notMem_leafKinds h

/-! ### Members -/

/-- The clauses of the conditions that have one. -/
def clausesOf (conditions : List Condition) : List Json :=
  conditions.filterMap fun c => c.compile.value

/-- The member of a bucket map for an occurrence, unless it has no clause left. -/
def member? (occur : Occur) (clauses : List Json) : Option (String × Json) :=
  if clauses.isEmpty then none else some (occur.name, bucket occur clauses)

/-- The bucket map of a set, in the order in which its occurrences were first used. -/
def ConditionSet.members (set : ConditionSet) : Entries Json :=
  set.groups.filterMap fun group => member? group.1 (clausesOf group.2)

theorem member?_eq_some_iff {occur : Occur} {clauses : List Json} {member : String × Json} :
    member? occur clauses = some member ↔
      clauses ≠ [] ∧ member = (occur.name, bucket occur clauses) := by
  cases clauses <;> simp [member?, eq_comm]

theorem mem_members_iff {set : ConditionSet} {member : String × Json} :
    member ∈ set.members ↔ ∃ group ∈ set.groups, clausesOf group.2 ≠ [] ∧
      member = (group.1.name, bucket group.1 (clausesOf group.2)) := by
  simp only [ConditionSet.members, List.mem_filterMap, member?_eq_some_iff]

/-- The keys are names of occurrences of the set, in their order. -/
theorem keys_members_sublist (set : ConditionSet) :
    (Entries.keys set.members).Sublist ((Groups.keys set.groups).map Occur.name) := by
  unfold ConditionSet.members
  induction set.groups with
  | nil => exact List.Sublist.slnil
  | cons group rest ih =>
    rw [List.filterMap_cons]
    cases hm : member? group.1 (clausesOf group.2) with
    | none => exact ih.cons _
    | some member =>
      obtain ⟨_, rfl⟩ := member?_eq_some_iff.mp hm
      exact ih.cons_cons _

theorem nodup_keys_members {set : ConditionSet} (h : (Groups.keys set.groups).Nodup) :
    (Entries.keys set.members).Nodup := by
  refine List.Nodup.sublist (keys_members_sublist set) (List.pairwise_map.mpr ?_)
  exact List.Pairwise.imp (fun hne he => hne (Occur.name_injective he)) h

theorem compileAll_value (conditions : List Condition) :
    (compileAll conditions).value = clausesOf conditions := by
  induction conditions with
  | nil => rfl
  | cons c rest ih =>
    rw [compileAll, Logged.value_bind, Logged.value_bind, Logged.value_pure, ih, clausesOf,
      clausesOf, List.filterMap_cons]
    cases c.compile.value <;> rfl

/-- No member is overwritten as long as every occurrence has one group. -/
theorem compileGroups_value (groups : List (Occur × List Condition)) (members : Entries Json)
    (hg : (Groups.keys groups).Nodup)
    (hm : ∀ o ∈ Groups.keys groups, o.name ∉ Entries.keys members) :
    (compileGroups groups members).value = members ++ (ConditionSet.mk groups).members := by
  induction groups generalizing members with
  | nil => exact (List.append_nil members).symm
  | cons group rest ih =>
    obtain ⟨occur, conditions⟩ := group
    obtain ⟨hfresh, hrest⟩ := List.nodup_cons.mp hg
    rw [compileGroups, Logged.value_bind, compileAll_value, ConditionSet.members,
      List.filterMap_cons]
    cases hc : clausesOf conditions with
    | nil =>
      exact ih members hrest fun o ho => hm o (List.mem_cons_of_mem _ ho)
    | cons clause clauses =>
      have hocc : occur.name ∉ Entries.keys members := hm occur (List.mem_cons_self ..)
      simp only [List.isEmpty_cons, Bool.false_eq_true, if_false, member?,
        Entries.insert_of_notMem hocc]
      rw [ih _ hrest, List.append_assoc]
      · rfl
      · intro o ho he
        simp only [Entries.keys, List.map_append, List.mem_append, List.map_cons, List.map_nil,
          List.mem_singleton] at he
        obtain he | he := he
        · exact hm o (List.mem_cons_of_mem _ ho) he
        · exact hfresh (Occur.name_injective he ▸ ho)

/-- The tree puts the members of the bucket map together. -/
theorem tree_value {set : ConditionSet} (h : (Groups.keys set.groups).Nodup) :
    set.tree.value = joinBuckets set.members := by
  obtain ⟨groups⟩ := set
  rw [ConditionSet.tree, Logged.value_bind, Logged.value_pure, compileGroups_value groups [] h]
  · rfl
  · intro o _ ho
    cases ho

/-! ### Trees as clauses and as queries -/

/-- Every member stands under the name of an occurrence. -/
def NamedByOccur (members : Entries Json) : Prop :=
  ∀ key ∈ Entries.keys members, ∃ o : Occur, key = o.name

theorem ConditionSet.namedByOccur_members (set : ConditionSet) : NamedByOccur set.members := by
  intro key hkey
  obtain ⟨o, _, ho⟩ := List.mem_map.mp ((keys_members_sublist set).mem hkey)
  exact ⟨o, ho.symm⟩

/-- A tree has one of three forms, and only a single bucket is left bare. -/
theorem joinBuckets_cases (members : Entries Json) :
    (members = [] ∧ joinBuckets members = matchAll) ∨
      (∃ member, members = [member] ∧ joinBuckets members = .obj [member]) ∨
      (members ≠ [] ∧ joinBuckets members = wrap (.obj members)) := by
  match members with
  | [] => exact .inl ⟨rfl, rfl⟩
  | [member] => exact .inr (.inl ⟨member, rfl, rfl⟩)
  | _ :: _ :: _ => exact .inr (.inr ⟨List.cons_ne_nil _ _, rfl⟩)

theorem isBuckets_matchAll : matchAll.isBuckets = false :=
  isBuckets_of_kind (by decide) _

theorem isBuckets_bare {member : String × Json} (h : NamedByOccur [member]) :
    (Json.obj [member]).isBuckets = true :=
  isBuckets_single.mpr (h member.1 (List.mem_cons_self ..))

/-- As a clause among others, a tree without clauses matches everything, and any other one is its
bucket map under bool. -/
theorem wrapBuckets_joinBuckets {members : Entries Json} (h : NamedByOccur members) :
    wrapBuckets (joinBuckets members) =
      if members.isEmpty then matchAll else wrap (.obj members) := by
  obtain ⟨rfl, hj⟩ | ⟨member, rfl, hj⟩ | ⟨hne, hj⟩ := joinBuckets_cases members
  · rw [hj, wrapBuckets, isBuckets_matchAll]
    rfl
  · rw [hj, wrapBuckets, isBuckets_bare h]
    rfl
  · rw [hj, wrapBuckets, isBuckets_wrap, List.isEmpty_eq_false_iff.mpr hne]
    rfl

/-- As a query, a tree is always a bucket map under bool. -/
theorem asQuery_joinBuckets {members : Entries Json} (h : NamedByOccur members) :
    asQuery (joinBuckets members) =
      wrap (.obj (if members.isEmpty then [("must", .arr [matchAll])] else members)) := by
  obtain ⟨rfl, hj⟩ | ⟨member, rfl, hj⟩ | ⟨hne, hj⟩ := joinBuckets_cases members
  · rw [hj]
    rfl
  · obtain ⟨o, ho⟩ := h member.1 (List.mem_cons_self ..)
    have hb : (Json.obj [member]).get? "bool" = none := if_neg (ho ▸ o.name_ne_bool)
    rw [hj, asQuery, hb, isBuckets_bare h]
    rfl
  · rw [hj, List.isEmpty_eq_false_iff.mpr hne]
    rfl

theorem query_value {set : ConditionSet} (h : (Groups.keys set.groups).Nodup) :
    set.query.value =
      wrap (.obj (if set.members.isEmpty then [("must", .arr [matchAll])] else set.members)) := by
  rw [ConditionSet.query, Logged.value_bind, Logged.value_pure, tree_value h,
    asQuery_joinBuckets set.namedByOccur_members]

end SearchQuery

import SearchQuery.Groups
import SearchQuery.Proofs.List.FirstUse

/-! Groups that filing alone has built. Each value is filed under a key of its own, so the groups
record the order in which the keys were first used and, for each key, the order of its values, and
filing the values again gives the groups back. Main statements: `Filed.file`, `keys_fileAll`,
`Filed.fileAll_values`. -/
namespace SearchQuery.Groups

variable {κ α : Type} [DecidableEq κ] {key : α → κ}

/-- Each key has one group, no group is empty, and every value stands under its own key. -/
structure Filed (key : α → κ) (groups : Groups κ α) : Prop where
  nodup : (keys groups).Nodup
  ne_nil : ∀ group ∈ groups, group.2 ≠ []
  own : ∀ group ∈ groups, ∀ a ∈ group.2, key a = group.1

omit [DecidableEq κ] in
theorem filed_nil : Filed key ([] : Groups κ α) := ⟨List.nodup_nil, by simp, by simp⟩

/-- A group after filing was there before, or has got the value last. -/
theorem mem_file {k : κ} {a : α} {groups : Groups κ α} {group : κ × List α}
    (h : group ∈ file k a groups) : group ∈ groups ∨ group = (k, [a]) ∨
      ∃ as, (k, as) ∈ groups ∧ group = (k, as ++ [a]) := by
  induction groups with
  | nil => exact .inr (.inl (List.mem_singleton.mp h))
  | cons first rest ih =>
    obtain ⟨l, as⟩ := first
    by_cases hl : l = k
    · subst hl
      rw [file, if_pos rfl, List.mem_cons] at h
      obtain h | h := h
      · exact .inr (.inr ⟨as, List.mem_cons_self .., h⟩)
      · exact .inl (List.mem_cons_of_mem _ h)
    · rw [file, if_neg hl, List.mem_cons] at h
      obtain rfl | h := h
      · exact .inl (List.mem_cons_self ..)
      · obtain h | h | ⟨bs, hbs, h⟩ := ih h
        · exact .inl (List.mem_cons_of_mem _ h)
        · exact .inr (.inl h)
        · exact .inr (.inr ⟨bs, List.mem_cons_of_mem _ hbs, h⟩)

theorem Filed.file {groups : Groups κ α} (h : Filed key groups) (a : α) :
    Filed key (file (key a) a groups) := by
  refine ⟨nodup_keys_file h.nodup, fun group hg => ?_, fun group hg b hb => ?_⟩
  · obtain hg | rfl | ⟨as, _, rfl⟩ := mem_file hg
    · exact h.ne_nil group hg
    · exact List.cons_ne_nil _ _
    · simp
  · obtain hg | rfl | ⟨as, has, rfl⟩ := mem_file hg
    · exact h.own group hg b hb
    · rw [List.mem_singleton.mp hb]
    · obtain hb | hb := List.mem_append.mp hb
      · exact h.own _ has b hb
      · rw [List.mem_singleton.mp hb]

omit [DecidableEq κ] in
theorem Filed.eq_nil_iff_size {groups : Groups κ α} (h : Filed key groups) :
    groups = [] ↔ size groups = 0 := by
  cases groups with
  | nil => simp [size]
  | cons group rest =>
    have hpos : 0 < group.2.length :=
      List.length_pos_iff.mpr (h.ne_nil group (List.mem_cons_self ..))
    simp only [size, reduceCtorEq, false_iff]
    omega

/-! ### Filing many values -/

/-- Files the values one after the other. -/
def fileAll (key : α → κ) (groups : Groups κ α) (as : List α) : Groups κ α :=
  as.foldl (fun groups a => Groups.file (key a) a groups) groups

theorem fileAll_append (groups : Groups κ α) (as bs : List α) :
    fileAll key groups (as ++ bs) = fileAll key (fileAll key groups as) bs := List.foldl_append

theorem file_append_of_notMem {k : κ} {before : Groups κ α} (h : k ∉ keys before) (a : α)
    (groups : Groups κ α) : file k a (before ++ groups) = before ++ file k a groups := by
  induction before with
  | nil => rfl
  | cons group rest ih =>
    rw [keys_cons, List.mem_cons, not_or] at h
    rw [List.cons_append, Groups.file, if_neg (Ne.symm h.1), ih h.2, List.cons_append]

/-- Values of one key that is new start a group and fill it. -/
theorem fileAll_group {k : κ} {before : Groups κ α} (h : k ∉ keys before) {as : List α}
    (hne : as ≠ []) (own : ∀ a ∈ as, key a = k) :
    fileAll key before as = before ++ [(k, as)] := by
  induction as using List.reverseRecOn with
  | nil => exact absurd rfl hne
  | append_singleton as a ih =>
    have ha : key a = k := own a (by simp)
    have hrest : ∀ b ∈ as, key b = k := fun b hb => own b (by simp [hb])
    rw [fileAll_append, fileAll, List.foldl_cons, List.foldl_nil, ha]
    by_cases has : as = []
    · subst has
      have hstart := file_append_of_notMem h a []
      rwa [List.append_nil] at hstart
    · rw [ih has hrest, file_append_of_notMem h, Groups.file, if_pos rfl]

/-- Filing the values of filed groups again, group after group, gives the same groups. -/
theorem Filed.fileAll_values {groups : Groups κ α} (h : Filed key groups) :
    fileAll key [] (values groups) = groups := by
  -- the groups that are done already have other keys than those to come
  suffices hall : ∀ before : Groups κ α, (keys (before ++ groups)).Nodup →
      fileAll key before (values groups) = before ++ groups from
    hall [] h.nodup
  induction groups with
  | nil => exact fun before _ => (List.append_nil before).symm
  | cons group rest ih =>
    intro before hnodup
    have hrest : Filed key rest :=
      ⟨(List.nodup_cons.mp h.nodup).2, fun g hg => h.ne_nil g (List.mem_cons_of_mem _ hg),
        fun g hg => h.own g (List.mem_cons_of_mem _ hg)⟩
    have hnew : group.1 ∉ keys before := by
      simp only [keys, List.map_append, List.map_cons] at hnodup
      exact fun hmem => (List.nodup_append.mp hnodup).2.2 _ hmem _ (List.mem_cons_self ..) rfl
    have hgroup : fileAll key before group.2 = before ++ [group] :=
      fileAll_group hnew (h.ne_nil group (List.mem_cons_self ..))
        (h.own group (List.mem_cons_self ..))
    rw [values, List.flatMap_cons, ← values, fileAll_append, hgroup,
      ih hrest (before ++ [group]) (by simpa using hnodup)]
    simp

end SearchQuery.Groups

import SearchQuery.Proofs.Json.Distinct
import SearchQuery.Reply.Reshape

/-! Hits with their source merged, as mappings. The source is taken out of the hit and its fields are
written over the other members one by one, so that the order of what is left is its own; under every
key there is what the source has there, or else what the hit has. Main statements:
`get?_mergeSource_of_obj`, `get?_mergeSource_of_other`, `mem_mergeSource_iff`,
`mergeSource_keeps`. -/
namespace SearchQuery.Record

variable {hit : Record} {source : Entries Json}

theorem nodup_keys_mergeSource (hkeys : (Entries.keys hit).Nodup) :
    (Entries.keys hit.mergeSource).Nodup := by
  have hremoved := Entries.nodup_keys_remove hkeys "_source"
  unfold mergeSource
  split
  · next source _ => exact Entries.nodup_keys_insertAll hremoved source
  · next other _ _ => exact Entries.nodup_keys_insert hremoved "_source" other
  · exact hkeys

/-- The fields of a source stand over the members of the hit, and the source itself is gone. -/
theorem get?_mergeSource_of_obj (hsource : Entries.get? hit "_source" = some (.obj source))
    (hkeys : (Entries.keys hit).Nodup) (hfields : (Entries.keys source).Nodup) (key : String) :
    Entries.get? hit.mergeSource key = (Entries.get? source key).or
      (if "_source" = key then none else Entries.get? hit key) := by
  rw [mergeSource, hsource, Entries.get?_insertAll hfields, Entries.get?_remove hkeys]

/-- A source that is no object stays, and so does all else. -/
theorem get?_mergeSource_of_other (hsource : ∀ source, Entries.get? hit "_source" ≠ some (.obj source))
    (hkeys : (Entries.keys hit).Nodup) (key : String) :
    Entries.get? hit.mergeSource key = Entries.get? hit key := by
  cases h : Entries.get? hit "_source" with
  | none => rw [mergeSource, h]
  | some other =>
    have hmerged : hit.mergeSource =
        Entries.insert "_source" other (Entries.remove "_source" hit) := by
      cases other with
      | obj source => exact absurd h (hsource source)
      | _ => rw [mergeSource, h]
    rw [hmerged, Entries.get?_insert, Entries.get?_remove hkeys]
    by_cases he : "_source" = key
    · subst he
      rw [if_pos rfl, h]
    · rw [if_neg he, if_neg he]

/-- A merged hit consists of the fields of its source and of those members of its own that are neither
the source nor under a name of a field. -/
theorem mem_mergeSource_iff (hsource : Entries.get? hit "_source" = some (.obj source))
    (hkeys : (Entries.keys hit).Nodup) (hfields : (Entries.keys source).Nodup)
    {member : String × Json} :
    member ∈ hit.mergeSource ↔
      member ∈ source ∨ member ∈ hit ∧ member.1 ≠ "_source" ∧ member.1 ∉ Entries.keys source := by
  obtain ⟨key, value⟩ := member
  rw [← Entries.get?_eq_some_iff_mem (nodup_keys_mergeSource hkeys),
    get?_mergeSource_of_obj hsource hkeys hfields, Option.or_eq_some_iff, Entries.get?_eq_none_iff,
    Entries.get?_eq_some_iff_mem hfields]
  by_cases he : "_source" = key
  · simp [he]
  · rw [if_neg he, Entries.get?_eq_some_iff_mem hkeys]
    simp [Ne.symm he, and_comm]

/-- Merging a source keeps every field. No key comes twice; where the source is an object, a key has
the value that the source gives it, or else the hit's own unless it is the key of the source, so that
all members of the source are there, and of the hit all but the source and what the source overrides;
and where there is no source, or one that is no object, nothing changes under any key. -/
theorem mergeSource_keeps (hkeys : (Entries.keys hit).Nodup)
    (hfields : ∀ source, Entries.get? hit "_source" = some (.obj source) →
      (Entries.keys source).Nodup) :
    (Entries.keys hit.mergeSource).Nodup ∧
      (∀ source, Entries.get? hit "_source" = some (.obj source) →
        (∀ key, Entries.get? hit.mergeSource key = (Entries.get? source key).or
          (if "_source" = key then none else Entries.get? hit key)) ∧
        ∀ member, member ∈ hit.mergeSource ↔ member ∈ source ∨
          member ∈ hit ∧ member.1 ≠ "_source" ∧ member.1 ∉ Entries.keys source) ∧
      ((∀ source, Entries.get? hit "_source" ≠ some (.obj source)) →
        ∀ key, Entries.get? hit.mergeSource key = Entries.get? hit key) := by
  refine ⟨nodup_keys_mergeSource hkeys, fun source hsource => ?_, fun hsource => ?_⟩
  · have hdistinct := hfields source hsource
    exact ⟨get?_mergeSource_of_obj hsource hkeys hdistinct,
      fun member => mem_mergeSource_iff hsource hkeys hdistinct⟩
  · exact get?_mergeSource_of_other hsource hkeys

/-- A document with fields that are named like its hit's identifier and like the source itself. -/
def namesake : Entries Json :=
  [("_source", .str "web"), ("_id", .ofNat 7), ("name", .str "ann")]

/-- The hit of the document, with the source between other members. -/
def namesakeHit : Record :=
  [("_id", .str "a"), ("_source", .obj namesake), ("_score", .null), ("sort", .arr [])]

theorem mergeSource_keeps_namesakeHit :
    (Entries.keys namesakeHit).Nodup ∧
      (∀ source, Entries.get? namesakeHit "_source" = some (.obj source) →
        (Entries.keys source).Nodup) ∧
      Entries.get? namesakeHit.mergeSource "_source" = some (.str "web") ∧
      Entries.get? namesakeHit.mergeSource "_id" = some (.ofNat 7) ∧
      Entries.get? namesakeHit.mergeSource "sort" = some (.arr []) ∧
      ("_score", .null) ∈ namesakeHit.mergeSource := by
  have hkeys : (Entries.keys namesakeHit).Nodup := by simp [namesakeHit, Entries.keys]
  have hfields : ∀ source, Entries.get? namesakeHit "_source" = some (.obj source) →
      (Entries.keys source).Nodup := by
    intro source hsource
    cases hsource
    simp [namesake, Entries.keys]
  obtain ⟨_, hmerged, _⟩ := mergeSource_keeps hkeys hfields
  obtain ⟨hget, hmem⟩ := hmerged namesake rfl
  have hscore : ("_score", Json.null) ∈ namesakeHit := .tail _ (.tail _ (.head _))
  have hown : "_score" ∉ Entries.keys namesake := by simp [namesake, Entries.keys]
  exact ⟨hkeys, hfields, hget "_source", hget "_id", hget "sort",
    (hmem _).mpr (.inr ⟨hscore, by decide, hown⟩)⟩

end SearchQuery.Record

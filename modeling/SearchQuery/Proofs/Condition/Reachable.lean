import SearchQuery.Proofs.Condition.Run

/-! The sets of conditions that calls can build from the empty one. Whatever the call, it pushes
either a nested set that was built the same way or a condition on fields, which gives an induction
for invariants of a run; the sets nested in a set are reachable themselves, which gives an induction
on the depth. Main statements: `Reachable.induct_push`, `Reachable.induct_nested`,
`reachable_iff_gather`. -/
namespace SearchQuery

theorem Occur.parse_name (occur : Occur) : Occur.parse occur.name = .ok occur := by
  cases occur <;> rfl

theorem Subject.nested_or_fields (subject : Subject) :
    (∃ child, subject = .nested child) ∨ ∀ child, subject ≠ .nested child := by
  cases subject with
  | nested child => exact .inl ⟨child, rfl⟩
  | _ => exact .inr nofun

/-- Only the value of a nested subject names an occurrence. -/
theorem Draft.occurName?_of_fields {draft : Draft Subject}
    (h : ∀ child, draft.subject ≠ .nested child) : draft.occurName? = none := by
  unfold occurName?
  split
  · next child _ hs _ => exact absurd hs (h child)
  · rfl

theorem Draft.occur_of_unnamed {base : Occur} {draft : Draft Subject}
    (h : draft.occurName? = none) : draft.occur base = .ok base := by
  rw [occur, h]

theorem Draft.occur_of_fields {base : Occur} {draft : Draft Subject}
    (h : ∀ child, draft.subject ≠ .nested child) : draft.occur base = .ok base :=
  occur_of_unnamed (occurName?_of_fields h)

namespace Condition

theorem ofDraft_nested {occur : Occur} {draft : Draft Subject} {child : ConditionSet}
    (h : draft.subject = .nested child) : ofDraft occur draft = nest occur child := by
  simp [ofDraft, h]

theorem ofDraft_fields {occur : Occur} {draft : Draft Subject}
    (h : ∀ child, draft.subject ≠ .nested child) : ofDraft occur draft = onFields occur draft := by
  unfold ofDraft
  split
  · next child hs => exact absurd hs (h child)
  · rfl

theorem add_eq_ok_iff {occur : String} {draft : Draft Subject} {c : Condition} :
    add occur draft = .ok c ↔
      ∃ base, Occur.parse occur = .ok base ∧
        ∃ o, draft.occur base = .ok o ∧ ofDraft o draft = c := by
  simp [add, Error.bind_eq_ok_iff, pure, Except.pure]

/-- Under an occurrence's own name, a condition on fields is never refused. -/
theorem add_name_fields (occur : Occur) {draft : Draft Subject}
    (h : ∀ child, draft.subject ≠ .nested child) :
    add occur.name draft = .ok (onFields occur draft) :=
  add_eq_ok_iff.mpr
    ⟨occur, occur.parse_name, occur, Draft.occur_of_fields h, ofDraft_fields h⟩

theorem apply_eq_ok_iff {verb : Verb} {arguments : Arguments Subject} {c : Condition} :
    apply verb arguments = .ok c ↔
      ∃ o, (arguments.draft verb).occur verb.occur = .ok o ∧
        ofDraft o (arguments.draft verb) = c := by
  simp [apply, Error.bind_eq_ok_iff, pure, Except.pure]

/-- The verb's own occurrence stands in where the call would be refused. -/
theorem record_value (verb : Verb) (arguments : Arguments Subject) :
    ∃ o, (record verb arguments).value = ofDraft o (arguments.draft verb) := by
  simp only [record]
  cases (arguments.draft verb).occur verb.occur with
  | ok o => exact ⟨o, rfl⟩
  | error e => exact ⟨verb.occur, rfl⟩

end Condition

namespace ConditionSet

/-- A set that calls can build from the empty one. A nested set comes ready made or is built in
place, and in either case by calls. -/
inductive Reachable : ConditionSet → Prop
  | empty : Reachable .empty
  | add {set next : ConditionSet} {occur : String} {draft : Draft Subject} (built : Reachable set)
      (nested : ∀ child, draft.subject = .nested child → Reachable child)
      (added : set.add occur draft = .ok next) : Reachable next
  | addNested {set next child : ConditionSet} {base : String} {override? : Option String}
      (built : Reachable set) (nested : Reachable child)
      (added : set.addNested base override? child = .ok next) : Reachable next
  | apply {set next : ConditionSet} {verb : Verb} {arguments : Arguments Subject}
      (built : Reachable set)
      (nested : ∀ child, arguments.subject = .nested child → Reachable child)
      (added : set.apply verb arguments = .ok next) : Reachable next
  | record {set : ConditionSet} {verb : Verb} {arguments : Arguments Subject}
      (built : Reachable set)
      (nested : ∀ child, arguments.subject = .nested child → Reachable child) :
      Reachable (set.record verb arguments).value
  | nest {set child : ConditionSet} (occur : Occur) (built : Reachable set)
      (nested : Reachable child) : Reachable (set.push (.nest occur child))

theorem add_eq_ok_iff {set next : ConditionSet} {occur : String} {draft : Draft Subject} :
    set.add occur draft = .ok next ↔
      ∃ c, Condition.add occur draft = .ok c ∧ set.push c = next := by
  simp [add, Error.bind_eq_ok_iff, pure, Except.pure]

theorem addNested_eq_ok_iff {set next child : ConditionSet} {base : String}
    {override? : Option String} :
    set.addNested base override? child = .ok next ↔
      ∃ o, Occur.ofNames base override? = .ok o ∧ set.push (.nest o child) = next := by
  simp [addNested, Error.bind_eq_ok_iff, pure, Except.pure]

theorem apply_eq_ok_iff {set next : ConditionSet} {verb : Verb} {arguments : Arguments Subject} :
    set.apply verb arguments = .ok next ↔
      ∃ c, Condition.apply verb arguments = .ok c ∧ set.push c = next := by
  simp [apply, Error.bind_eq_ok_iff, pure, Except.pure]

theorem record_value (set : ConditionSet) (verb : Verb) (arguments : Arguments Subject) :
    (set.record verb arguments).value = set.push (Condition.record verb arguments).value := rfl

/-- One of the conditions of a set is the other set. -/
def NestedIn (child set : ConditionSet) : Prop :=
  ∃ c ∈ Groups.values set.groups, c.subject = .nested child

theorem nestedIn_push {child set : ConditionSet} {c : Condition} :
    child.NestedIn (set.push c) ↔ child.NestedIn set ∨ c.subject = .nested child := by
  simp only [NestedIn, push, Groups.mem_values_file, or_and_right, exists_or, exists_eq_left]

namespace Reachable

variable {set : ConditionSet}

/-- An invariant of the runs of calls: every call pushes a nested set, itself built by calls, or a
condition on fields. -/
theorem induct_push {P : ConditionSet → Prop} (empty : P .empty)
    (nest : ∀ {set child} occur, P set → P child → P (set.push (.nest occur child)))
    (fields : ∀ {set} occur (draft : Draft Subject), (∀ child, draft.subject ≠ .nested child) →
      P set → P (set.push (.onFields occur draft)))
    (h : set.Reachable) : P set := by
  have ofDraft : ∀ {set} occur (draft : Draft Subject), P set →
      (∀ child, draft.subject = .nested child → P child) →
      P (set.push (.ofDraft occur draft)) := by
    intro set occur draft hset hchild
    obtain ⟨child, hs⟩ | hs := draft.subject.nested_or_fields
    · rw [Condition.ofDraft_nested hs]
      exact nest occur hset (hchild child hs)
    · rw [Condition.ofDraft_fields hs]
      exact fields occur draft hs hset
  induction h with
  | empty => exact empty
  | add _ _ added ihset ihchild =>
    obtain ⟨c, hc, rfl⟩ := add_eq_ok_iff.mp added
    obtain ⟨_, _, o, _, rfl⟩ := Condition.add_eq_ok_iff.mp hc
    exact ofDraft o _ ihset ihchild
  | addNested _ _ added ihset ihchild =>
    obtain ⟨o, _, rfl⟩ := addNested_eq_ok_iff.mp added
    exact nest o ihset ihchild
  | apply _ _ added ihset ihchild =>
    obtain ⟨c, hc, rfl⟩ := apply_eq_ok_iff.mp added
    obtain ⟨o, _, rfl⟩ := Condition.apply_eq_ok_iff.mp hc
    refine ofDraft o _ ihset ?_
    rwa [Arguments.subject_draft]
  | @record set verb arguments _ _ ihset ihchild =>
    obtain ⟨o, ho⟩ := Condition.record_value verb arguments
    rw [record_value, ho]
    refine ofDraft o _ ihset ?_
    rwa [Arguments.subject_draft]
  | nest occur _ _ ihset ihchild => exact nest occur ihset ihchild

theorem push_onFields (h : set.Reachable) (occur : Occur) {draft : Draft Subject}
    (hs : ∀ child, draft.subject ≠ .nested child) :
    (set.push (.onFields occur draft)).Reachable := by
  have hc : Condition.add occur.name draft = .ok (.onFields occur draft) :=
    Condition.add_name_fields occur hs
  exact .add h (fun child he => absurd he (hs child)) (add_eq_ok_iff.mpr ⟨_, hc, rfl⟩)

theorem nodup_keys (h : set.Reachable) : (Groups.keys set.groups).Nodup := by
  refine induct_push (P := fun set => (Groups.keys set.groups).Nodup) List.nodup_nil ?_ ?_ h
  · intro set child occur hset _
    exact Groups.nodup_keys_file hset
  · intro set occur draft _ hset
    exact Groups.nodup_keys_file hset

/-- What holds of a reachable set once it holds of the sets nested in it, holds of those. -/
theorem forall_nestedIn {P : ConditionSet → Prop}
    (step : ∀ set : ConditionSet, set.Reachable →
      (∀ child : ConditionSet, child.NestedIn set → P child) → P set)
    (h : set.Reachable) : ∀ child : ConditionSet, child.NestedIn set → P child := by
  -- the nested set of a call is stepped to when it is pushed, so reachability goes along
  suffices hs : set.Reachable ∧ ∀ child : ConditionSet, child.NestedIn set → P child from hs.2
  refine induct_push (P := fun set => set.Reachable ∧
    ∀ child : ConditionSet, child.NestedIn set → P child) ?_ ?_ ?_ h
  · exact ⟨.empty, by simp [NestedIn, ConditionSet.empty, Groups.values]⟩
  · rintro set child occur ⟨hset, ihset⟩ ⟨hchild, ihchild⟩
    refine ⟨.nest occur hset hchild, fun other hc => ?_⟩
    obtain hc | hc := nestedIn_push.mp hc
    · exact ihset other hc
    · cases hc
      exact step child hchild ihchild
  · rintro set occur draft hs ⟨hset, ihset⟩
    refine ⟨hset.push_onFields occur hs, fun child hc => ?_⟩
    obtain hc | hc := nestedIn_push.mp hc
    · exact ihset child hc
    · exact absurd hc (hs child)

theorem of_nestedIn (h : set.Reachable) {child : ConditionSet} (hc : child.NestedIn set) :
    child.Reachable :=
  forall_nestedIn (fun _ hset _ => hset) h child hc

/-- An induction on the depth. -/
theorem induct_nested {P : ConditionSet → Prop}
    (step : ∀ set : ConditionSet, set.Reachable →
      (∀ child : ConditionSet, child.NestedIn set → P child) → P set)
    (h : set.Reachable) : P set :=
  step set h (forall_nestedIn step h)

end Reachable

end ConditionSet

/-! ### Runs of steps -/

open ConditionSet

mutual

theorem Target.reachable_of_build : ∀ (target : Target) (child : ConditionSet),
    target.build.value = .nested child → child.Reachable
  | .field _, child, h => nomatch h
  | .fields _, child, h => nomatch h
  | .nested steps, child, h => by
    rw [Target.build, Logged.value_bind, Logged.value_pure, Subject.nested.injEq] at h
    exact h ▸ reachable_gather steps .empty .empty

theorem Arguments.reachable_of_build : ∀ (arguments : Arguments Target) (child : ConditionSet),
    arguments.subject.build.value = .nested child → child.Reachable
  | .ofSubject target, child, h => target.reachable_of_build child h
  | .ofValue target _, child, h => target.reachable_of_build child h
  | .ofOperator target _ _, child, h => target.reachable_of_build child h
  | .ofBoost target _ _ _, child, h => target.reachable_of_build child h

theorem Step.reachable_push : ∀ (step : Step) (c : Condition) (set : ConditionSet),
    step.condition.value = .ok c → set.Reachable → (set.push c).Reachable
  | .add occur ⟨target, operator, value, boost⟩ => by
    intro c set h hset
    rw [Step.value_add] at h
    refine .add hset ?_ (add_eq_ok_iff.mpr ⟨c, h, rfl⟩)
    exact target.reachable_of_build
  | .addNested base override? steps => by
    intro c set h hset
    rw [Step.value_addNested] at h
    cases ho : Occur.ofNames base override? with
    | error e => simp [ho, Except.map] at h
    | ok occur =>
      simp only [ho, Except.map, Except.ok.injEq] at h
      rw [← h]
      exact .nest occur hset (reachable_gather steps .empty .empty)
  | .apply name arguments => by
    intro c set h hset
    rw [Step.value_apply] at h
    obtain ⟨verb, _, hc⟩ := Error.bind_eq_ok_iff.mp h
    refine .apply hset ?_ (apply_eq_ok_iff.mpr ⟨c, hc, rfl⟩)
    rw [Arguments.subject_about]
    exact arguments.reachable_of_build
  | .record verb arguments => by
    intro c set h hset
    rw [Step.value_record, Except.ok.injEq] at h
    rw [← h, ← record_value]
    refine .record hset ?_
    rw [Arguments.subject_about]
    exact arguments.reachable_of_build
  | .nest occur steps => by
    intro c set h hset
    rw [Step.value_nest, Except.ok.injEq] at h
    rw [← h]
    exact .nest occur hset (reachable_gather steps .empty .empty)

theorem reachable_gather : ∀ (steps : List Step) (set : ConditionSet), set.Reachable →
    (gather steps set).value.Reachable
  | [], set, hset => hset
  | step :: rest, set, hset => by
    cases h : step.condition.value with
    | ok c =>
      rw [gather_cons_ok h]
      exact reachable_gather rest _ (step.reachable_push c set h hset)
    | error e =>
      rw [gather_cons_error h]
      exact reachable_gather rest set hset

end

/-- A subject about fields that is still to be built. -/
def Subject.target : Subject → Target
  | .field name => .field name
  | .fields names => .fields names
  | .nested _ => .nested []

theorem Subject.build_target {subject : Subject} (h : ∀ child, subject ≠ .nested child) :
    subject.target.build.value = subject := by
  cases subject with
  | field name => rfl
  | fields names => rfl
  | nested child => exact absurd rfl (h child)

/-- The reachable sets are those that runs of steps leave in the empty set. -/
theorem reachable_iff_gather {set : ConditionSet} :
    set.Reachable ↔ ∃ steps, (gather steps .empty).value = set := by
  refine ⟨?_, fun ⟨steps, h⟩ => h ▸ reachable_gather steps .empty .empty⟩
  refine Reachable.induct_push (P := fun set => ∃ steps, (gather steps .empty).value = set)
    ⟨[], rfl⟩ ?_ ?_
  · rintro _ _ occur ⟨steps, rfl⟩ ⟨inner, rfl⟩
    refine ⟨steps ++ [.nest occur inner], ?_⟩
    rw [gather_append, gather_cons_ok (Step.value_nest occur inner)]
    rfl
  · rintro _ occur draft hs ⟨steps, rfl⟩
    refine ⟨steps ++ [.add occur.name (draft.about draft.subject.target)], ?_⟩
    rw [gather_append, gather_cons_ok]
    · rfl
    · rw [Step.value_add, Draft.about, Draft.about, Subject.build_target hs]
      exact Condition.add_name_fields occur hs

/-- A condition, one without a value, and a nested set under filter. -/
def romanSteps : List Step :=
  [.whereEq (.field "city") (.str "rome"), .orWhereEq (.field "vip") (.str ""),
    .filterNested [.orWhere (.field "age") ">" (.ofNat 60),
      .orWhere (.field "age") "<" (.ofNat 18)]]

def ConditionSet.romans : ConditionSet := (gather romanSteps .empty).value

theorem ConditionSet.reachable_romans : romans.Reachable :=
  reachable_gather romanSteps .empty .empty

end SearchQuery

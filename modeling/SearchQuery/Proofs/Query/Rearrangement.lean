import SearchQuery.Proofs.Condition.Calls
import SearchQuery.Proofs.Query.Alike

/-! Runs that leave the same query. In a run, and in the runs of the nested sets that its steps
build, a step whose condition has no clause can be left out, and neighbours under different
occurrences can change places. Main statements: `clauses_alike`, `query_of_rearranged`. -/
namespace SearchQuery

open Json (Alike)

namespace Condition

/-- The condition has no clause. A nested set always has one: left without clauses of its own, it
matches everything. -/
def Suppressed (c : Condition) : Prop := c.child? = none ∧ c.clause? = none

theorem Suppressed.compile_value {c : Condition} (h : c.Suppressed) : c.compile.value = none := by
  rw [compile_of_leaf h.1, h.2]

end Condition

/-! ### Steps with another nested script -/

/-- The other script in place of the nested one. -/
def Target.withNested (steps : List Step) : Target → Target
  | .nested _ => .nested steps
  | target => target

/-- A step that builds a nested set, with another script for it. The other steps are as before. -/
def Step.withNested (steps : List Step) : Step → Step
  | .add occur draft => .add occur (draft.about (draft.subject.withNested steps))
  | .addNested base override? _ => .addNested base override? steps
  | .apply verb arguments => .apply verb (arguments.about (arguments.subject.withNested steps))
  | .record verb arguments => .record verb (arguments.about (arguments.subject.withNested steps))
  | .nest occur _ => .nest occur steps

theorem Target.withNested_cases (target : Target) :
    (∀ steps, target.withNested steps = target) ∨
      ∀ steps, (target.withNested steps).build.value = .nested (gather steps .empty).value := by
  cases target with
  | field name => exact .inl fun _ => rfl
  | fields names => exact .inl fun _ => rfl
  | nested inner =>
    refine .inr fun steps => ?_
    rw [withNested, build, Logged.value_bind, Logged.value_pure]

/-- What a nested script leaves decides neither whether a step is refused nor the occurrence of its
condition. -/
theorem Step.withNested_cases (step : Step) :
    (∀ steps, step.withNested steps = step) ∨
      ∃ occur? : Except Error Occur, ∀ steps, (step.withNested steps).condition.value =
        occur?.map (.nest · (gather steps .empty).value) := by
  cases step with
  | add occur draft =>
    obtain h | h := draft.subject.withNested_cases
    · exact .inl fun steps => by rw [withNested, h]; rfl
    · refine .inr ⟨(Occur.parse occur).bind draft.nestedOccur, fun steps => ?_⟩
      rw [withNested, value_add, ← Condition.add_about_nested, ← h steps]
      rfl
  | addNested base override? inner =>
    exact .inr ⟨Occur.ofNames base override?, fun steps => value_addNested base override? steps⟩
  | apply verb arguments =>
    obtain h | h := arguments.subject.withNested_cases
    · exact .inl fun steps => by rw [withNested, h, Arguments.about_subject]
    · refine .inr ⟨(Verb.parse verb).bind fun verb =>
        (arguments.draft verb).nestedOccur verb.occur, fun steps => ?_⟩
      rw [withNested, value_apply, Arguments.subject_about, Arguments.about_about, h steps]
      cases Verb.parse verb with
      | error e => rfl
      | ok verb => exact Condition.apply_about_nested verb _ _
  | record verb arguments =>
    obtain h | h := arguments.subject.withNested_cases
    · exact .inl fun steps => by rw [withNested, h, Arguments.about_subject]
    · refine .inr ⟨.ok (((arguments.draft verb).nestedOccur verb.occur).toOption.getD verb.occur),
        fun steps => ?_⟩
      rw [withNested, value_record, Arguments.subject_about, Arguments.about_about, h steps]
      exact congrArg Except.ok (Condition.record_about_nested verb _ _)
  | nest occur inner => exact .inr ⟨.ok occur, fun steps => value_nest occur steps⟩

theorem Step.stored?_withNested (step : Step) :
    (∀ steps, step.withNested steps = step) ∨
      ∃ occur? : Option Occur, ∀ steps, (step.withNested steps).stored? =
        occur?.map (.nest · (gather steps .empty).value) := by
  obtain hsame | ⟨occur?, hvalue⟩ := step.withNested_cases
  · exact .inl hsame
  · refine .inr ⟨occur?.toOption, fun steps => ?_⟩
    rw [stored?, hvalue]
    cases occur? <;> rfl

/-! ### Rearranged runs -/

/-- The second run comes from the first one by leaving out steps, by letting neighbours change
places, and by doing either in a nested script, at any depth. A refused step stores no condition,
so nothing is asked of it. -/
inductive Rearranged : List Step → List Step → Prop
  | refl (steps : List Step) : Rearranged steps steps
  | trans {a b c : List Step} (first : Rearranged a b) (second : Rearranged b c) : Rearranged a c
  | erase {step : Step} (before after : List Step)
      (suppressed : ∀ c, step.stored? = some c → c.Suppressed) :
      Rearranged (before ++ step :: after) (before ++ after)
  | swap {step step' : Step} (before after : List Step)
      (apart : ∀ c c', step.stored? = some c → step'.stored? = some c' → c.occur ≠ c'.occur) :
      Rearranged (before ++ step :: step' :: after) (before ++ step' :: step :: after)
  | inner {steps steps' : List Step} (before : List Step) (step : Step) (after : List Step)
      (nested : Rearranged steps steps') :
      Rearranged (before ++ step.withNested steps :: after)
        (before ++ step.withNested steps' :: after)

/-- The clauses that a run adds under an occurrence. -/
def clausesAdded (steps : List Step) (occur : Occur) : List Json :=
  clausesOf ((storedBy steps).filter (·.occur = occur))

theorem clauses_gather (steps : List Step) (set : ConditionSet) (occur : Occur) :
    (gather steps set).value.clauses occur = set.clauses occur ++ clausesAdded steps occur := by
  rw [ConditionSet.clauses, under_gather, clausesOf, List.filterMap_append]
  rfl

theorem clausesAdded_append (steps steps' : List Step) (occur : Occur) :
    clausesAdded (steps ++ steps') occur =
      clausesAdded steps occur ++ clausesAdded steps' occur := by
  rw [clausesAdded, storedBy, List.filterMap_append, List.filter_append, clausesOf,
    List.filterMap_append]
  rfl

theorem clausesAdded_cons (step : Step) (steps : List Step) (occur : Occur) :
    clausesAdded (step :: steps) occur = clausesAdded [step] occur ++ clausesAdded steps occur :=
  clausesAdded_append [step] steps occur

theorem clausesAdded_single {step : Step} {c : Condition} (h : step.stored? = some c)
    (occur : Occur) :
    clausesAdded [step] occur = if c.occur = occur then c.compile.value.toList else [] := by
  rw [clausesAdded, storedBy, List.filterMap_cons_some h, List.filterMap_nil]
  split
  · next ho =>
    rw [List.filter_cons_of_pos (by simpa using ho), clausesOf, List.filter_nil,
      List.filterMap_cons]
    cases c.compile.value <;> rfl
  · next ho =>
    rw [List.filter_cons_of_neg (by simpa using ho)]
    rfl

theorem clausesAdded_single_eq_nil {step : Step} {occur : Occur}
    (h : ∀ c, step.stored? = some c → c.occur = occur → c.compile.value = none) :
    clausesAdded [step] occur = [] := by
  cases hs : step.stored? with
  | none => rw [clausesAdded, storedBy, List.filterMap_cons_none hs]; rfl
  | some c =>
    rw [clausesAdded_single hs]
    split
    · next ho => rw [h c hs ho]; rfl
    · rfl

/-- Conditions under different occurrences do not meet in any list of clauses. -/
theorem clausesAdded_swap {step step' : Step} (occur : Occur)
    (apart : ∀ c c', step.stored? = some c → step'.stored? = some c' → c.occur ≠ c'.occur) :
    clausesAdded [step] occur ++ clausesAdded [step'] occur =
      clausesAdded [step'] occur ++ clausesAdded [step] occur := by
  by_cases h : ∃ c, step.stored? = some c ∧ c.occur = occur
  · obtain ⟨c, hc, ho⟩ := h
    have hnil : clausesAdded [step'] occur = [] :=
      clausesAdded_single_eq_nil fun c' hc' ho' =>
        absurd (ho.trans ho'.symm) (apart c c' hc hc')
    rw [hnil, List.append_nil, List.nil_append]
  · have hnil : clausesAdded [step] occur = [] :=
      clausesAdded_single_eq_nil fun c hc ho => absurd ⟨c, hc, ho⟩ h
    rw [hnil, List.append_nil, List.nil_append]

theorem clauses_gather_alike {steps steps' : List Step} (set : ConditionSet)
    (h : ∀ occur, List.Forall₂ Alike (clausesAdded steps occur) (clausesAdded steps' occur))
    (occur : Occur) :
    List.Forall₂ Alike ((gather steps set).value.clauses occur)
      ((gather steps' set).value.clauses occur) := by
  rw [clauses_gather, clauses_gather]
  exact List.rel_append (List.forall₂_refl _) (h occur)

/-- A step that builds a nested set adds its tree, which the clauses of the script decide. -/
theorem clausesAdded_withNested {steps steps' : List Step}
    (h : ∀ occur, List.Forall₂ Alike (clausesAdded steps occur) (clausesAdded steps' occur))
    (step : Step) (occur : Occur) :
    List.Forall₂ Alike (clausesAdded [step.withNested steps] occur)
      (clausesAdded [step.withNested steps'] occur) := by
  obtain hsame | ⟨occur?, hstored⟩ := step.stored?_withNested
  · rw [hsame, hsame]
    exact List.forall₂_refl _
  · cases occur? with
    | none =>
      have hnil (steps : List Step) : clausesAdded [step.withNested steps] occur = [] :=
        clausesAdded_single_eq_nil fun c hc => by rw [hstored] at hc; cases hc
      rw [hnil, hnil]
      exact .nil
    | some o =>
      have hclauses (steps : List Step) : clausesAdded [step.withNested steps] occur =
          if o = occur then [(gather steps .empty).value.tree.value] else [] := by
        rw [clausesAdded_single (hstored steps), Condition.compile_of_child rfl]
        rfl
      have hkeys (steps : List Step) :
          (Groups.keys (gather steps .empty).value.groups).Nodup :=
        nodup_keys_gather steps List.nodup_nil
      rw [hclauses, hclauses]
      split
      · exact .cons (ConditionSet.tree_alike (hkeys steps) (hkeys steps')
          (clauses_gather_alike .empty h)) .nil
      · exact .nil

/-- One rearrangement changes no list of clauses, but for the order of members inside of them. -/
theorem Rearranged.clauses_alike {steps steps' : List Step} (h : Rearranged steps steps')
    (occur : Occur) :
    List.Forall₂ Alike (clausesAdded steps occur) (clausesAdded steps' occur) := by
  induction h generalizing occur with
  | refl steps => exact List.forall₂_refl _
  | trans _ _ ih ih' => exact Alike.forall₂_trans (ih occur) (ih' occur)
  | @erase step before after suppressed =>
    have hnil : clausesAdded [step] occur = [] :=
      clausesAdded_single_eq_nil fun c hc _ => (suppressed c hc).compile_value
    rw [clausesAdded_append, clausesAdded_cons, hnil, List.nil_append, clausesAdded_append]
    exact List.forall₂_refl _
  | @swap step step' before after apart =>
    have hsplit (a b : Step) : clausesAdded (before ++ a :: b :: after) occur =
        clausesAdded before occur ++
          (clausesAdded [a] occur ++ clausesAdded [b] occur ++ clausesAdded after occur) := by
      rw [clausesAdded_append, clausesAdded_cons, clausesAdded_cons b, List.append_assoc]
    rw [hsplit, hsplit, clausesAdded_swap occur apart]
    exact List.forall₂_refl _
  | inner before step after _ ih =>
    rw [clausesAdded_append, clausesAdded_append, clausesAdded_cons,
      clausesAdded_cons (step.withNested _) after]
    refine List.rel_append (List.forall₂_refl _) (List.rel_append ?_ (List.forall₂_refl _))
    exact clausesAdded_withNested ih step occur

/-- A query depends only on the conditions that have a clause, and on their order under each
occurrence. -/
theorem query_of_rearranged {steps steps' : List Step} {set : ConditionSet}
    (hset : set.Reachable) (h : Rearranged steps steps') :
    Alike (gather steps set).value.query.value (gather steps' set).value.query.value ∧
      ∀ json : Json, json.same (gather steps set).value.query.value =
        json.same (gather steps' set).value.query.value := by
  have halike : Alike (gather steps set).value.query.value (gather steps' set).value.query.value :=
    ConditionSet.query_alike (nodup_keys_gather steps hset.nodup_keys)
      (nodup_keys_gather steps' hset.nodup_keys) (clauses_gather_alike set h.clauses_alike)
  exact ⟨halike, halike.same_eq⟩

def romeStep : Step := .whereEq (.field "city") (.str "rome")

def blankStep : Step := .orWhereEq (.field "vip") (.str "")

def seniorStep : Step := .orWhere (.field "age") ">" (.ofNat 60)

def blankRun : List Step := [romeStep, blankStep, .filterNested [blankStep, seniorStep]]

def plainRun : List Step := [.filterNested [seniorStep], romeStep]

theorem suppressed_blankStep : ∀ c, blankStep.stored? = some c → c.Suppressed := by
  intro c hc
  obtain rfl := Option.some.inj hc
  exact ⟨rfl, rfl⟩

theorem rearranged_blankRun : Rearranged blankRun plainRun := by
  have hblank : Rearranged blankRun [romeStep, .filterNested [blankStep, seniorStep]] :=
    .erase [romeStep] _ suppressed_blankStep
  have hnested : Rearranged [romeStep, .filterNested [blankStep, seniorStep]]
      [romeStep, .filterNested [seniorStep]] :=
    .inner [romeStep] (.nest .filter []) [] (.erase [] [seniorStep] suppressed_blankStep)
  have hswap : Rearranged [romeStep, .filterNested [seniorStep]] plainRun := by
    refine .swap [] [] fun c c' hc hc' => ?_
    obtain rfl := Option.some.inj hc
    obtain rfl := Option.some.inj hc'
    exact nofun
  exact hblank.trans (hnested.trans hswap)

theorem query_of_rearranged_blankRun :
    ConditionSet.empty.Reachable ∧ Rearranged blankRun plainRun ∧
      Alike (gather blankRun .empty).value.query.value (gather plainRun .empty).value.query.value ∧
        ∀ json : Json, json.same (gather blankRun .empty).value.query.value =
          json.same (gather plainRun .empty).value.query.value :=
  ⟨.empty, rearranged_blankRun, query_of_rearranged .empty rearranged_blankRun⟩

end SearchQuery

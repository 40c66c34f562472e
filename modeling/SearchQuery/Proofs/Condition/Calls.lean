import SearchQuery.Proofs.Condition.Reachable

/-! The calls that record a condition agree. A verb stands for its occurrence and, where a call is
silent, for its operator, so a call by a verb is the call that names the verb's occurrence. Only a
nested set is ever refused, when a text that comes with it names no occurrence; a call that is never
refused then keeps the verb's own. Main statements: `Records.eq_push`, `apply_eq_add`. -/
namespace SearchQuery

/-! ### Names of occurrences -/

/-- The names of occurrences, blanks around them and letter case apart. -/
def Occur.spellings : List String := ["must", "must_not", "mustnot", "should", "filter"]

theorem Occur.parse_eq_error_iff {text : String} {error : Error} :
    parse text = .error error ↔ Text.normal text ∉ spellings ∧ error = .unknownOccur text := by
  unfold parse
  split
  · next h => simp [h, spellings]
  · next h => simp [h, spellings]
  · next h => simp [h, spellings]
  · next h => simp [h, spellings]
  · next h => simp [h, spellings]
  · simp_all [spellings, eq_comm]

namespace Draft

variable {draft : Draft Subject}

theorem occurName?_eq_some_iff {name : String} :
    draft.occurName? = some name ↔
      (∃ child, draft.subject = .nested child) ∧ draft.value = .str name ∧
        Text.trim name ≠ "" := by
  unfold occurName?
  split
  · next child text hs hv =>
    rw [hs, hv, Json.str.injEq, Option.ite_none_left_eq_some, Option.some.injEq,
      String.isEmpty_iff]
    constructor
    · rintro ⟨hne, rfl⟩
      exact ⟨⟨child, rfl⟩, rfl, hne⟩
    · rintro ⟨_, rfl, hne⟩
      exact ⟨hne, rfl⟩
  · next hne =>
    refine iff_of_false nofun ?_
    rintro ⟨⟨child, hs⟩, hv, _⟩
    exact hne child name hs hv

theorem occur_eq_error_iff {base : Occur} {error : Error} :
    draft.occur base = .error error ↔
      ∃ name, draft.occurName? = some name ∧ Occur.parse name = .error error := by
  unfold occur
  cases draft.occurName? <;> simp

end Draft

/-! ### Arguments in full -/

namespace Arguments

variable {σ : Type}

/-- The operator of the call, if it names one. -/
def operator? : Arguments σ → Option String
  | .ofSubject _ | .ofValue _ _ => none
  | .ofOperator _ operator _ | .ofBoost _ operator _ _ => some operator

def value? : Arguments σ → Option Json
  | .ofSubject _ => none
  | .ofValue _ value | .ofOperator _ _ value | .ofBoost _ _ value _ => some value

def boost? : Arguments σ → Option Float
  | .ofBoost _ _ _ boost => some boost
  | _ => none

/-- The arguments in full: what they do not give is the verb's operator, null, and a boost of
zero. -/
def words (verb : Verb) (arguments : Arguments σ) : Draft σ :=
  ⟨arguments.subject, arguments.operator?.getD verb.operator, arguments.value?.getD .null,
    arguments.boost?.getD 0.0⟩

theorem draft_eq_words (verb : Verb) (arguments : Arguments σ) :
    arguments.draft verb = arguments.words verb := by
  cases arguments <;> rfl

theorem words_about {τ : Type} (verb : Verb) (arguments : Arguments σ) (subject : τ) :
    (arguments.about subject).words verb = (arguments.words verb).about subject := by
  cases arguments <;> rfl

/-- Without a value there is no text either. -/
theorem value_words_eq_str_iff {verb : Verb} {arguments : Arguments σ} {text : String} :
    (arguments.words verb).value = .str text ↔ arguments.value? = some (.str text) := by
  unfold words
  cases arguments.value? <;> simp

end Arguments

/-! ### Nested sets -/

/-- The occurrence that words about a nested set ask for, whatever the set holds. -/
def Draft.nestedOccur {σ : Type} (base : Occur) (draft : Draft σ) : Except Error Occur :=
  (draft.about (.nested .empty)).occur base

theorem Draft.occur_about_nested {σ : Type} (base : Occur) (draft : Draft σ)
    (child : ConditionSet) :
    (draft.about (.nested child)).occur base = draft.nestedOccur base := by
  have hname : (draft.about (.nested child)).occurName? =
      (draft.about (.nested .empty)).occurName? := by
    unfold occurName? about
    cases draft.value <;> rfl
  rw [nestedOccur, occur, occur, hname]

namespace Condition

variable {σ : Type}

theorem add_about_nested (occur : String) (draft : Draft σ) (child : ConditionSet) :
    add occur (draft.about (.nested child)) =
      ((Occur.parse occur).bind draft.nestedOccur).map (.nest · child) := by
  rw [add]
  cases Occur.parse occur with
  | error e => rfl
  | ok base =>
    show ((draft.about (.nested child)).occur base).bind _ = (draft.nestedOccur base).map _
    rw [Draft.occur_about_nested]
    cases draft.nestedOccur base <;> rfl

theorem apply_about_nested (verb : Verb) (arguments : Arguments σ) (child : ConditionSet) :
    apply verb (arguments.about (.nested child)) =
      ((arguments.draft verb).nestedOccur verb.occur).map (.nest · child) := by
  rw [apply, Arguments.draft_about, Draft.occur_about_nested]
  cases (arguments.draft verb).nestedOccur verb.occur <;> rfl

theorem record_about_nested (verb : Verb) (arguments : Arguments σ) (child : ConditionSet) :
    (record verb (arguments.about (.nested child))).value =
      .nest (((arguments.draft verb).nestedOccur verb.occur).toOption.getD verb.occur) child := by
  rw [record, Arguments.draft_about, Draft.occur_about_nested]
  cases (arguments.draft verb).nestedOccur verb.occur <;> rfl

end Condition

/-! ### One call for another -/

namespace Condition

variable {verb : Verb} {arguments : Arguments Subject}

theorem apply_eq_add_words (verb : Verb) (arguments : Arguments Subject) :
    apply verb arguments = add verb.occur.name (arguments.words verb) := by
  rw [apply, add, Occur.parse_name, Arguments.draft_eq_words]
  rfl

theorem apply_eq_error_iff {error : Error} :
    apply verb arguments = .error error ↔
      (arguments.draft verb).occur verb.occur = .error error := by
  rw [apply]
  cases (arguments.draft verb).occur verb.occur <;> simp [bind, Except.bind, pure, Except.pure]

theorem record_of_ok {c : Condition} (h : apply verb arguments = .ok c) :
    record verb arguments = pure c := by
  obtain ⟨o, ho, rfl⟩ := apply_eq_ok_iff.mp h
  simp only [record, ho]

/-- In place of a refusal, the verb's own occurrence is kept, with a warning. -/
theorem record_of_error {error : Error} (h : apply verb arguments = .error error) :
    record verb arguments =
      ⟨ofDraft verb.occur (arguments.draft verb), [.occurKept error verb]⟩ := by
  simp only [record, apply_eq_error_iff.mp h]
  rfl

end Condition

theorem Verb.parse_name (verb : Verb) : Verb.parse verb.name = .ok verb := by
  cases verb <;> rfl

namespace Step

theorem log_add (occur : String) (draft : Draft Target) :
    (add occur draft).condition.log = draft.subject.build.log := by
  rw [condition, Logged.log_bind, Logged.log_pure, List.append_nil]

theorem log_apply (verb : String) (arguments : Arguments Target) :
    (apply verb arguments).condition.log = arguments.subject.build.log := by
  rw [condition, Logged.log_bind, Logged.log_pure, List.append_nil]
  cases arguments
  all_goals
    rw [Arguments.build, Logged.log_bind, Logged.log_pure, List.append_nil]
    rfl

/-- With the subject still to be built, too, a step by a verb is the step that names the verb's
occurrence: building the subject logs the same. -/
theorem condition_apply (verb : Verb) (arguments : Arguments Target) :
    (apply verb.name arguments).condition =
      (add verb.occur.name (arguments.words verb)).condition := by
  have hvalue : (apply verb.name arguments).condition.value =
      (add verb.occur.name (arguments.words verb)).condition.value := by
    rw [value_apply, value_add, Verb.parse_name, Except.bind,
      Condition.apply_eq_add_words, Arguments.words_about]
    rfl
  have hlog : (apply verb.name arguments).condition.log =
      (add verb.occur.name (arguments.words verb)).condition.log := by
    rw [log_apply, log_add]
    rfl
  exact Logged.ext hvalue hlog

end Step

theorem gather_of_refused {step : Step} {error : Error} (h : step.condition.value = .error error)
    (set : ConditionSet) : (gather [step] set).value = set := by
  rw [gather_cons_error h, gather, Logged.value_pure]

namespace ConditionSet

/-- The calls that record a condition under an occurrence in the words of a draft, each with what it
returns. -/
inductive Records (set : ConditionSet) (occur : Occur) (draft : Draft Subject) :
    Except Error ConditionSet → Prop
  | add {name : String} (named : Occur.parse name = .ok occur) :
      Records set occur draft (set.add name draft)
  | apply {verb : Verb} {arguments : Arguments Subject} (own : verb.occur = occur)
      (words : arguments.draft verb = draft) : Records set occur draft (set.apply verb arguments)
  | record {verb : Verb} {arguments : Arguments Subject} (own : verb.occur = occur)
      (words : arguments.draft verb = draft) :
      Records set occur draft (.ok (set.record verb arguments).value)

variable {set : ConditionSet} {occur : Occur} {draft : Draft Subject}
  {result : Except Error ConditionSet}

/-- Unless a value names an occurrence, all the calls come to the same. -/
theorem Records.eq_push (call : set.Records occur draft result)
    (unnamed : draft.occurName? = none) : result = .ok (set.push (.ofDraft occur draft)) := by
  have hoccur : draft.occur occur = .ok occur := Draft.occur_of_unnamed unnamed
  cases call with
  | add named =>
    exact add_eq_ok_iff.mpr ⟨_, Condition.add_eq_ok_iff.mpr ⟨occur, named, occur, hoccur, rfl⟩, rfl⟩
  | apply own words =>
    subst words own
    exact apply_eq_ok_iff.mpr ⟨_, Condition.apply_eq_ok_iff.mpr ⟨_, hoccur, rfl⟩, rfl⟩
  | @record verb arguments own words =>
    subst words own
    have happly := Condition.apply_eq_ok_iff.mpr ⟨_, hoccur, rfl⟩
    rw [record_value, Condition.record_of_ok happly]
    rfl

theorem apply_eq_error_iff {verb : Verb} {arguments : Arguments Subject} {error : Error} :
    set.apply verb arguments = .error error ↔ Condition.apply verb arguments = .error error := by
  rw [apply]
  cases Condition.apply verb arguments <;> simp [bind, Except.bind, pure, Except.pure]

/-- Only a name that is not blank and names no occurrence is refused, and only beside a nested
set. -/
theorem apply_refused_iff {verb : Verb} {arguments : Arguments Subject} {error : Error} :
    set.apply verb arguments = .error error ↔
      ∃ child name, arguments.subject = .nested child ∧ arguments.value? = some (.str name) ∧
        Text.trim name ≠ "" ∧ Text.normal name ∉ Occur.spellings ∧ error = .unknownOccur name := by
  rw [apply_eq_error_iff, Condition.apply_eq_error_iff, Draft.occur_eq_error_iff]
  simp only [Draft.occurName?_eq_some_iff, Occur.parse_eq_error_iff, Arguments.draft_eq_words,
    Arguments.value_words_eq_str_iff]
  constructor
  · rintro ⟨name, ⟨⟨child, hs⟩, hv, hblank⟩, hname, rfl⟩
    exact ⟨child, name, hs, hv, hblank, hname, rfl⟩
  · rintro ⟨child, name, hs, hv, hblank, hname, rfl⟩
    exact ⟨name, ⟨⟨child, hs⟩, hv, hblank⟩, hname, rfl⟩

theorem record_of_apply_ok {next : ConditionSet} {verb : Verb} {arguments : Arguments Subject}
    (h : set.apply verb arguments = .ok next) : set.record verb arguments = pure next := by
  obtain ⟨c, hc, rfl⟩ := apply_eq_ok_iff.mp h
  rw [record, Condition.record_of_ok hc]
  rfl

theorem record_of_apply_error {verb : Verb} {arguments : Arguments Subject} {error : Error}
    (h : set.apply verb arguments = .error error) :
    ∃ child, arguments.subject = .nested child ∧ set.record verb arguments =
      ⟨set.push (.nest verb.occur child), [.occurKept error verb]⟩ := by
  obtain ⟨child, _, hs, _⟩ := apply_refused_iff.mp h
  have hdraft : (arguments.draft verb).subject = .nested child := by
    rw [Arguments.subject_draft, hs]
  rw [record, Condition.record_of_error (apply_eq_error_iff.mp h), Condition.ofDraft_nested hdraft]
  exact ⟨child, hs, rfl⟩

/-- A call by a verb is the call that names the verb's occurrence, with the arguments in full: both
return the same set, or are refused with the same error and leave the set as it was. They are
refused exactly if the subject is nested and the value is a text, not blank, that names no
occurrence. The call that is never refused returns the same set whenever they return one, and
otherwise files the nested set under the verb's own occurrence. -/
theorem apply_eq_add (set : ConditionSet) (verb : Verb) (arguments : Arguments Subject) :
    set.apply verb arguments = set.add verb.occur.name (arguments.words verb) ∧
    (∀ error, set.apply verb arguments = .error error ↔
      ∃ child name, arguments.subject = .nested child ∧ arguments.value? = some (.str name) ∧
        Text.trim name ≠ "" ∧ Text.normal name ∉ Occur.spellings ∧ error = .unknownOccur name) ∧
    (∀ next, set.apply verb arguments = .ok next → set.record verb arguments = pure next) ∧
    (∀ error, set.apply verb arguments = .error error →
      ∃ child, arguments.subject = .nested child ∧ set.record verb arguments =
        ⟨set.push (.nest verb.occur child), [.occurKept error verb]⟩) ∧
    ∀ targets : Arguments Target,
      gather [.apply verb.name targets] set =
          gather [.add verb.occur.name (targets.words verb)] set ∧
        ∀ error, (Step.apply verb.name targets).condition.value = .error error →
          (gather [.apply verb.name targets] set).value = set := by
  refine ⟨?_, fun _ => apply_refused_iff, fun _ => record_of_apply_ok,
    fun _ => record_of_apply_error, fun targets => ⟨?_, fun _ h => gather_of_refused h set⟩⟩
  · rw [apply, add, Condition.apply_eq_add_words]
  · simp only [gather, Step.condition_apply]

/-- A text that names no occurrence. The call that is not refused adds one more nested set under
filter, beside the one that was there. -/
theorem apply_eq_add_misnamed :
    romans.apply .filterIn (.ofValue (.nested romans) (.str " or")) =
        .error (.unknownOccur " or") ∧
      romans.record .filterIn (.ofValue (.nested romans) (.str " or")) =
        ⟨romans.push (.nest .filter romans), [.occurKept (.unknownOccur " or") .filterIn]⟩ ∧
      (romans.record .filterIn (.ofValue (.nested romans) (.str " or"))).value.under .filter =
        romans.under .filter ++ [.nest .filter romans] := by
  obtain ⟨_, hrefused, _, hkept, _⟩ :=
    romans.apply_eq_add .filterIn (.ofValue (.nested romans) (.str " or"))
  have herror := (hrefused (.unknownOccur " or")).mpr
    ⟨romans, " or", rfl, rfl, by decide, by decide, rfl⟩
  obtain ⟨child, hchild, hrecord⟩ := hkept _ herror
  obtain rfl := Subject.nested.inj hchild
  refine ⟨herror, hrecord, ?_⟩
  rw [hrecord]
  exact romans.under_push_own (.nest .filter romans)

end ConditionSet

end SearchQuery

import SearchQuery.Proofs.Condition.Calls

/-! A nested set under an occurrence that overrides the base one. It can be added as a condition,
whose value is the overriding name, or as a nested set with that name beside the base one. The first
call reads both names, the second only the one that counts; so they agree unless the base name is
unknown and the overriding one is not. Blanks are apart: they override nothing in the first call,
and in the second only an empty name overrides nothing. Main statement: `add_agrees_addNested`. -/
namespace SearchQuery

theorem Occur.parse_known {text : String} (known : Text.normal text ∈ spellings) :
    ∃ occur, parse text = .ok occur := by
  cases h : parse text with
  | ok occur => exact ⟨occur, rfl⟩
  | error e => exact absurd known (parse_eq_error_iff.mp h).1

theorem Occur.parse_unknown {text : String} (unknown : Text.normal text ∉ spellings) :
    parse text = .error (.unknownOccur text) :=
  parse_eq_error_iff.mpr ⟨unknown, rfl⟩

/-! ### The occurrence that counts -/

/-- A blank name overrides nothing. -/
theorem Draft.nestedOccur_str {σ : Type} (base : Occur) (subject : σ) (operator name : String)
    (boost : Float) :
    nestedOccur base ⟨subject, operator, .str name, boost⟩ =
      if Text.trim name = "" then .ok base else Occur.parse name := by
  by_cases hblank : Text.trim name = ""
  · simp [nestedOccur, occur, occurName?, about, hblank]
  · simp [nestedOccur, occur, occurName?, about, hblank]

variable {base name operator : String} {boost : Float} {child : ConditionSet}

/-- Added as a condition, a nested set needs a base name that is known, whatever its value says. -/
theorem Condition.add_nested :
    add base ⟨.nested child, operator, .str name, boost⟩ =
      ((Occur.parse base).bind fun o =>
        if Text.trim name = "" then .ok o else Occur.parse name).map (nest · child) := by
  have hadd := add_about_nested base (⟨(), operator, .str name, boost⟩ : Draft Unit) child
  have hoccur : (⟨(), operator, .str name, boost⟩ : Draft Unit).nestedOccur =
      fun o => if Text.trim name = "" then .ok o else Occur.parse name :=
    funext fun o => Draft.nestedOccur_str o () operator name boost
  simp only [Draft.about, hoccur] at hadd
  exact hadd

theorem Condition.add_nested_of_unknown (unknown : Text.normal base ∉ Occur.spellings) :
    add base ⟨.nested child, operator, .str name, boost⟩ = .error (.unknownOccur base) := by
  rw [add_nested, Occur.parse_unknown unknown]
  rfl

/-- Both calls file the nested set under the overriding occurrence, or under the base one if the
overriding name is empty. -/
theorem Condition.toOption_add_nested (unblank : Text.trim name = "" → name = "")
    (known : Text.normal base ∈ Occur.spellings ∨ Text.normal name ∉ Occur.spellings) :
    (add base ⟨.nested child, operator, .str name, boost⟩).toOption =
      ((Occur.ofNames base (some name)).map (nest · child)).toOption := by
  rw [add_nested, Occur.ofNames]
  by_cases hname : name = ""
  · subst hname
    have hblank : Text.trim "" = "" := rfl
    simp only [hblank, if_true, String.isEmpty_iff]
    cases Occur.parse base <;> rfl
  · have hblank : Text.trim name ≠ "" := fun h => hname (unblank h)
    simp only [hblank, if_false, String.isEmpty_iff, hname]
    obtain hbase | hunknown := known
    · obtain ⟨o, ho⟩ := Occur.parse_known hbase
      simp only [ho, Except.bind]
    · rw [Occur.parse_unknown hunknown]
      cases Occur.parse base <;> rfl

namespace Step

theorem value_add_nested (base operator : String) (value : Json) (boost : Float)
    (steps : List Step) :
    (add base ⟨.nested steps, operator, value, boost⟩).condition.value =
      Condition.add base ⟨.nested (gather steps .empty).value, operator, value, boost⟩ := by
  rw [value_add, Draft.about, Target.build]
  rfl

/-- Two steps agree on a set: both are refused and leave it as it was, or both leave the same
set. -/
def AgreeOn (set : ConditionSet) (a b : Step) : Prop :=
  (∃ e e', a.condition.value = .error e ∧ b.condition.value = .error e' ∧
      (gather [a] set).value = set ∧ (gather [b] set).value = set) ∨
    ∃ c c', a.condition.value = .ok c ∧ b.condition.value = .ok c' ∧
      (gather [a] set).value = (gather [b] set).value

/-- Steps agree once they store the same condition, or none. -/
theorem agreeOn_of_stored? {a b : Step} (h : a.stored? = b.stored?) (set : ConditionSet) :
    a.AgreeOn set b := by
  unfold stored? at h
  cases ha : a.condition.value with
  | ok c =>
    cases hb : b.condition.value with
    | ok c' =>
      rw [ha, hb] at h
      obtain rfl := Option.some.inj h
      exact .inr ⟨c, c, ha, hb, by rw [gather_cons_ok ha, gather_cons_ok hb]⟩
    | error e =>
      rw [ha, hb] at h
      cases h
  | error e =>
    cases hb : b.condition.value with
    | ok c =>
      rw [ha, hb] at h
      cases h
    | error e' => exact .inl ⟨e, e', ha, hb, gather_of_refused ha set, gather_of_refused hb set⟩

end Step

namespace ConditionSet

theorem toOption_add (set : ConditionSet) (base : String) (draft : Draft Subject) :
    (set.add base draft).toOption = (Condition.add base draft).toOption.map set.push := by
  rw [add]
  cases Condition.add base draft <;> rfl

theorem toOption_addNested (set child : ConditionSet) (base : String) (override? : Option String) :
    (set.addNested base override? child).toOption =
      ((Occur.ofNames base override?).map (.nest · child)).toOption.map set.push := by
  rw [addNested]
  cases Occur.ofNames base override? <;> rfl

/-- Added with a value that names an occurrence or with an overriding name, a nested set is refused
in both calls or leaves the same set in both, as long as the base name is known or the overriding
one is not. Where only the overriding name is known, the first call is refused for its base name,
and the second does not read that one. -/
theorem add_agrees_addNested (set child : ConditionSet) (base name operator : String)
    (boost : Float) (unblank : Text.trim name = "" → name = "") :
    (Text.normal base ∈ Occur.spellings ∨ Text.normal name ∉ Occur.spellings →
      (set.add base ⟨.nested child, operator, .str name, boost⟩).toOption =
          (set.addNested base (some name) child).toOption ∧
        ∀ steps, Step.AgreeOn set (.add base ⟨.nested steps, operator, .str name, boost⟩)
          (.addNested base (some name) steps)) ∧
    (Text.normal base ∉ Occur.spellings → ∀ occur, Occur.parse name = .ok occur →
      set.add base ⟨.nested child, operator, .str name, boost⟩ = .error (.unknownOccur base) ∧
        (∀ steps,
          (gather [.add base ⟨.nested steps, operator, .str name, boost⟩] set).value = set) ∧
        set.addNested base (some name) child = .ok (set.push (.nest occur child))) := by
  refine ⟨fun known => ⟨?_, fun steps => Step.agreeOn_of_stored? ?_ set⟩,
    fun unknown occur hname => ⟨?_, fun steps => ?_, ?_⟩⟩
  · rw [toOption_add, toOption_addNested, Condition.toOption_add_nested unblank known]
  · rw [Step.stored?, Step.stored?, Step.value_add_nested, Step.value_addNested]
    exact Condition.toOption_add_nested unblank known
  · rw [add, Condition.add_nested_of_unknown unknown]
    rfl
  · exact gather_of_refused
      ((Step.value_add_nested _ _ _ _ _).trans (Condition.add_nested_of_unknown unknown)) set
  · have hne : name ≠ "" := by
      rintro rfl
      cases hname
    rw [addNested, Occur.ofNames]
    simp only [String.isEmpty_iff, hne, if_false, hname]
    rfl

/-- A name in capitals, and a blank beside the overriding one. -/
theorem add_agrees_addNested_romans :
    (Text.trim " Should" = "" → " Should" = "") ∧ Text.normal "MUST" ∈ Occur.spellings ∧
      (romans.add "MUST" ⟨.nested romans, "not", .str " Should", 2.0⟩).toOption =
        (romans.addNested "MUST" (some " Should") romans).toOption ∧
      romans.addNested "MUST" (some " Should") romans =
        .ok (romans.push (.nest .should romans)) := by
  have unblank : Text.trim " Should" = "" → " Should" = "" := by decide
  have known : Text.normal "MUST" ∈ Occur.spellings := by decide
  obtain ⟨hagree, _⟩ := add_agrees_addNested romans romans "MUST" " Should" "not" 2.0 unblank
  exact ⟨unblank, known, (hagree (.inl known)).1, rfl⟩

/-- A base name that is unknown stands in the way of one call, and the other overrides it. A blank
that overrides stands in the way of the other call. -/
theorem unknownBase_disagrees :
    empty.add "sometimes" ⟨.nested romans, "=", .str "should", 0.0⟩ =
        .error (.unknownOccur "sometimes") ∧
      empty.addNested "sometimes" (some "should") romans =
        .ok (empty.push (.nest .should romans)) ∧
      empty.add "must" ⟨.nested romans, "=", .str " ", 0.0⟩ =
        .ok (empty.push (.nest .must romans)) ∧
      empty.addNested "must" (some " ") romans = .error (.unknownOccur " ") ∧
      ¬((∃ e e', empty.add "sometimes" ⟨.nested romans, "=", .str "should", 0.0⟩ = .error e ∧
          empty.addNested "sometimes" (some "should") romans = .error e') ∨
        ∃ next, empty.add "sometimes" ⟨.nested romans, "=", .str "should", 0.0⟩ = .ok next ∧
          empty.addNested "sometimes" (some "should") romans = .ok next) := by
  have hadd : empty.add "sometimes" ⟨.nested romans, "=", .str "should", 0.0⟩ =
      .error (.unknownOccur "sometimes") := rfl
  have hnested : empty.addNested "sometimes" (some "should") romans =
      .ok (empty.push (.nest .should romans)) := rfl
  refine ⟨hadd, hnested, rfl, rfl, ?_⟩
  rw [hadd, hnested]
  rintro (⟨_, _, _, h⟩ | ⟨_, h, _⟩)
  · cases h
  · cases h

end ConditionSet

end SearchQuery

import SearchQuery.Proofs.Condition.Calls
import SearchQuery.Proofs.Condition.Canonical
import SearchQuery.Proofs.Text.Spaced

/-! Spellings of a negated operator. Under must, a mark of negation before a known operator, in any
letter case and with any blanks around it, says the same as the operator alone under must_not: what
is left once the mark is off is the operator in its normal form, and no known operator begins with a
mark itself. Main statement: `records_negated_eq`. -/
namespace SearchQuery

open Text (Blank Trimmed)

/-! ### Names of operators -/

namespace Operator

/-- The names of the operators that are known. -/
def names : List String :=
  ["=", "term", "in", "terms", "like", "match", "multi_match", "matchs", "multimatch", ">", "gt",
    ">=", "gte", "<", "lt", "<=", "lte", "exists", "exist", "miss", "missing"]

theorem mem_names_of_known {text : String} (known : ∀ other, ofText text ≠ .other other) :
    text ∈ names := by
  unfold ofText at known
  split at known
  any_goals simp [names]
  exact absurd rfl (known text)

theorem names_plain :
    (names.all fun name => !name.isEmpty && !decide (Negated name.toList) &&
      !name.toList.contains 'σ' && !name.toList.contains 'ς') = true := by
  decide +kernel

/-- A name is not empty, does not look negated, and has no sigma in it. -/
theorem plain_of_known {text : String} (known : ∀ other, ofText text ≠ .other other) :
    text ≠ "" ∧ ¬Negated text.toList ∧ 'σ' ∉ text.toList ∧ 'ς' ∉ text.toList := by
  have hplain := List.all_eq_true.mp names_plain text (mem_names_of_known known)
  simpa [and_assoc] using hplain

end Operator

/-! ### Marks of negation -/

/-- The text is the operator with a mark of negation before it, an exclamation mark or the word not
in any letter case. Blanks may stand around the two and between them. -/
def Negates (text operator : String) : Prop :=
  ∃ before mark between after : String, text = before ++ mark ++ between ++ operator ++ after ∧
    Blank before.toList ∧ Blank between.toList ∧ Blank after.toList ∧
    Text.lower mark ∈ ["!", "not"]

theorem mark_plain {mark : String} (h : Text.lower mark ∈ ["!", "not"]) :
    'Σ' ∉ mark.toList ∧ mark.toList ≠ [] ∧ Trimmed mark.toList := by
  have hplain : 'σ' ∉ (Text.lower mark).toList ∧ 'ς' ∉ (Text.lower mark).toList ∧
      Text.lower mark ≠ "" ∧ Trimmed (Text.lower mark).toList := by
    obtain h | h := by simpa using h
    · rw [h]
      exact ⟨by decide, by decide, by decide, by simp [Trimmed]; decide⟩
    · rw [h]
      exact ⟨by decide, by decide, by decide, by simp [Trimmed]; decide⟩
  obtain ⟨hsigma, hfinal, hne, htrimmed⟩ := hplain
  have hfree : 'Σ' ∉ mark.toList := Text.sigma_notMem_of_lower hsigma hfinal
  rw [Text.toList_lower] at htrimmed
  exact ⟨hfree, Text.toList_ne_nil_of_lower hne, Text.trimmed_of_lowerChars hfree htrimmed⟩

/-- In normal form, too, a mark stands before the operator, and blanks may stand between. -/
theorem normal_of_negates {text operator : String} (h : Negates text operator)
    (known : ∀ other, Operator.ofText (Text.normal operator) ≠ .other other) :
    ∃ mark ∈ ["!", "not"], ∃ gap, Blank gap ∧
      (Text.normal text).toList = mark.toList ++ gap ++ (Text.normal operator).toList := by
  obtain ⟨before, mark, between, after, rfl, hbefore, hbetween, hafter, hmark⟩ := h
  obtain ⟨hsigma, hne, htrimmed⟩ := mark_plain hmark
  obtain ⟨hnormal, _, hsmall, hfinal⟩ := Operator.plain_of_known known
  exact ⟨_, hmark, Text.normal_spaced hbefore hbetween hafter htrimmed hne hsigma
    (Text.toList_ne_nil_of_lower hnormal) (Text.sigma_notMem_of_lower hsmall hfinal)⟩

/-- The mark is taken off, whichever it is, and nothing else. -/
theorem splitNegation_of_marked {mark : String} (hmark : mark ∈ ["!", "not"])
    {gap operator : List Char} (hgap : Blank gap) (hop : ¬Negated operator) :
    splitNegation (mark.toList ++ gap ++ operator) = (true, gap ++ operator) := by
  obtain rfl | rfl := by simpa using hmark
  · refine splitNegation_mark ?_
    cases gap with
    | nil => exact fun h => hop (.inr h)
    | cons c rest =>
      rintro ⟨_, h⟩
      have hc : 'n' = c := (List.cons.inj h).1
      have hblank : Text.isBlank c = true := hgap c (List.mem_cons_self ..)
      rw [← hc] at hblank
      exact absurd hblank (by decide)
  · rfl

namespace Condition

theorem onFields_of_negates {plain : Draft Subject} {text : String}
    (h : Negates text plain.operator)
    (known : ∀ other, Operator.ofText (Text.normal plain.operator) ≠ .other other) :
    onFields .must ⟨plain.subject, text, plain.value, plain.boost⟩ = onFields .mustNot plain := by
  obtain ⟨mark, hmark, gap, hgap, hnormal⟩ := normal_of_negates h known
  obtain ⟨hne, hop, _, _⟩ := Operator.plain_of_known known
  have hread : readNegation .must (Text.normal text).toList =
      (true, gap ++ (Text.normal plain.operator).toList) := by
    rw [readNegation, if_pos rfl, hnormal, splitNegation_of_marked hmark hgap hop]
  have hplain : ¬(Occur.mustNot = .must ∧ Negated (Text.normal plain.operator).toList) := by
    rintro ⟨hmust, _⟩
    cases hmust
  have htext : operatorText .must text = operatorText .mustNot plain.operator := by
    rw [operatorText_of_not_negated hplain, operatorText, hread]
    exact Text.trim_of_spaced hgap (Text.trimmed_normal _) (by simpa using hne)
  rw [onFields_eq, onFields_eq, htext, hread]
  rfl

end Condition

namespace ConditionSet

variable {set : ConditionSet} {plain : Draft Subject} {text : String}
  {negated result : Except Error ConditionSet}

/-- Whichever calls make the two, a condition recorded under must with the mark is the one recorded
under must_not without it. -/
theorem Records.eq_of_negates
    (must : set.Records .must ⟨plain.subject, text, plain.value, plain.boost⟩ negated)
    (mustNot : set.Records .mustNot plain result)
    (fields : ∀ child, plain.subject ≠ .nested child)
    (known : ∀ other, Operator.ofText (Text.normal plain.operator) ≠ .other other)
    (spelling : Negates text plain.operator) : negated = result := by
  have hmust := must.eq_push (Draft.occurName?_of_fields fields)
  have hmustNot := mustNot.eq_push (Draft.occurName?_of_fields fields)
  have hmarked : ∀ child,
      (⟨plain.subject, text, plain.value, plain.boost⟩ : Draft Subject).subject ≠ .nested child :=
    fields
  rw [hmust, hmustNot, Condition.ofDraft_fields fields, Condition.ofDraft_fields hmarked,
    Condition.onFields_of_negates spelling known]

theorem known_in (other : String) : Operator.ofText (Text.normal "in") ≠ .other other := by
  have hin : Text.normal "in" = "in" := by decide
  rw [hin]
  exact nofun

theorem negates_not_in : Negates "not in" "in" := by
  refine ⟨"", "not", " ", "", by decide, ?_, ?_, ?_, by decide⟩
  all_goals simp [Blank]
  decide

/-- A condition on fields whose operator is known, recorded under must with a mark of negation
before the operator, leaves the same set as under must_not without the mark, and neither is refused.
So the operator "not in" by the verb where is the same as no operator by a verb for what is not in a
list. -/
theorem records_negated_eq (fields : ∀ child, plain.subject ≠ .nested child)
    (known : ∀ other, Operator.ofText (Text.normal plain.operator) ≠ .other other)
    (spelling : Negates text plain.operator)
    (must : set.Records .must ⟨plain.subject, text, plain.value, plain.boost⟩ negated)
    (mustNot : set.Records .mustNot plain result) :
    negated = result ∧ (∃ next, result = .ok next) ∧
      (set.record .whereIs (.ofOperator plain.subject "not in" plain.value)).value =
        (set.record .whereNotIn (.ofValue plain.subject plain.value)).value ∧
      (set.record .whereIs (.ofOperator plain.subject "not in" plain.value)).value =
        (set.record .filterNotIn (.ofValue plain.subject plain.value)).value := by
  have hnotIn {verb : Verb} (own : verb.occur = .mustNot) (silent : verb.operator = "in") :
      (set.record .whereIs (.ofOperator plain.subject "not in" plain.value)).value =
        (set.record verb (.ofValue plain.subject plain.value)).value := by
    have hwords : (Arguments.ofValue plain.subject plain.value).draft verb =
        ⟨plain.subject, "in", plain.value, 0.0⟩ := by rw [Arguments.draft, silent]
    have hmust : set.Records .must ⟨plain.subject, "not in", plain.value, 0.0⟩
        (.ok (set.record .whereIs (.ofOperator plain.subject "not in" plain.value)).value) :=
      .record rfl rfl
    have hmustNot : set.Records .mustNot ⟨plain.subject, "in", plain.value, 0.0⟩
        (.ok (set.record verb (.ofValue plain.subject plain.value)).value) := .record own hwords
    exact Except.ok.inj (hmust.eq_of_negates hmustNot fields known_in negates_not_in)
  exact ⟨must.eq_of_negates mustNot fields known spelling,
    ⟨_, mustNot.eq_push (Draft.occurName?_of_fields fields)⟩, hnotIn rfl rfl, hnotIn rfl rfl⟩

/-- An operator in capitals, the third of which is the kelvin sign. -/
def likeBob : Draft Subject := ⟨.fields ["name", "alias"], "LI\u212AE", .str "bob", 2.0⟩

/-- Its negation, with a tab and an em space in it. -/
def unlikeBob : Draft Subject :=
  ⟨.fields ["name", "alias"], "\u2003nOt\tLI\u212AE ", .str "bob", 2.0⟩

theorem negates_unlikeBob : Negates unlikeBob.operator likeBob.operator := by
  refine ⟨"\u2003", "nOt", "\t", " ", by decide, ?_, ?_, ?_, by decide⟩
  all_goals simp [Blank]
  all_goals decide

/-- Either call files the operator alone under must_not, and must is as it was. -/
theorem records_negated_eq_unlikeBob :
    (∀ child, likeBob.subject ≠ .nested child) ∧
      (∀ other, Operator.ofText (Text.normal likeBob.operator) ≠ .other other) ∧
      Negates unlikeBob.operator likeBob.operator ∧
      romans.Records .must unlikeBob (romans.add " Must" unlikeBob) ∧
      romans.Records .mustNot likeBob (romans.add "mustnot" likeBob) ∧
      romans.add " Must" unlikeBob = romans.add "mustnot" likeBob ∧
      ∃ next, romans.add "mustnot" likeBob = .ok next ∧
        next.under .mustNot =
          [⟨.mustNot, .fields ["name", "alias"], .fullText, .str "bob", 2.0⟩] ∧
        next.under .must = romans.under .must := by
  have known : ∀ other, Operator.ofText (Text.normal likeBob.operator) ≠ .other other := by
    have hlike : Text.normal likeBob.operator = "like" := by decide
    rw [hlike]
    exact nofun
  have must : romans.Records .must unlikeBob (romans.add " Must" unlikeBob) := .add rfl
  have mustNot : romans.Records .mustNot likeBob (romans.add "mustnot" likeBob) := .add rfl
  have fields : ∀ child, likeBob.subject ≠ .nested child := nofun
  obtain ⟨heq, _⟩ := records_negated_eq fields known negates_unlikeBob must mustNot
  have hmoved : (Condition.ofDraft .mustNot likeBob).occur ≠ .must := nofun
  exact ⟨fields, known, negates_unlikeBob, must, mustNot, heq, _, mustNot.eq_push rfl,
    romans.under_push_own (.ofDraft .mustNot likeBob), under_push_of_ne hmoved romans⟩

end ConditionSet

end SearchQuery

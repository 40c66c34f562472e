import Mathlib.Logic.Relation
import SearchQuery.Proofs.Condition.Reachable
import SearchQuery.Proofs.Groups.Filed
import SearchQuery.Proofs.Text.Normal

/-! The form in which conditions are stored. A nested set has its own operator, no value and no
boost; equality never stands beside a list; an operator that is not known is a text in normal form,
from which nothing more could be taken off. Main statements: `Condition.canonical_onFields`,
`ConditionSet.canonical_gather`. -/
namespace SearchQuery

/-! ### Negation -/

/-- The operator begins with a mark of negation. -/
def Negated (operator : List Char) : Prop := ['!'] <+: operator ∨ ['n', 'o', 't'] <+: operator

instance (operator : List Char) : Decidable (Negated operator) :=
  inferInstanceAs (Decidable (_ ∨ _))

theorem splitNegation_mark {rest : List Char} (h : ¬['n', 'o', 't'] <+: rest) :
    splitNegation ('!' :: rest) = (true, rest) := by
  unfold splitNegation
  dsimp only
  split
  · next heq => exact absurd ⟨_, heq.symm⟩ h
  · rfl

theorem splitNegation_of_not_negated {operator : List Char} (h : ¬Negated operator) :
    splitNegation operator = (false, operator) := by
  obtain ⟨hmark, hnot⟩ := not_or.mp h
  unfold splitNegation
  dsimp only
  split
  · next heq =>
    split at heq
    · exact absurd (List.prefix_append ['!'] _) hmark
    · exact absurd ⟨_, heq.symm⟩ hnot
  · split
    · exact absurd (List.prefix_append ['!'] _) hmark
    · rfl

/-- Marks of negation are taken off the front, and the rest stays. -/
theorem splitNegation_of_negated {operator : List Char} (h : Negated operator) :
    ∃ rest, rest <:+ operator ∧ splitNegation operator = (true, rest) := by
  obtain ⟨rest, rfl⟩ | ⟨rest, rfl⟩ := h
  · by_cases hnot : ['n', 'o', 't'] <+: rest
    · obtain ⟨rest, rfl⟩ := hnot
      exact ⟨rest, List.suffix_append ['!', 'n', 'o', 't'] rest, rfl⟩
    · exact ⟨rest, List.suffix_append ['!'] rest, splitNegation_mark hnot⟩
  · exact ⟨rest, List.suffix_append ['n', 'o', 't'] rest, rfl⟩

/-! ### Operators -/

theorem Operator.ofText_eq_other {text other : String} (h : ofText text = .other other) :
    other = text := by
  unfold ofText at h
  split at h <;> cases h
  rfl

theorem Operator.ofText_ne_nested (text : String) : ofText text ≠ .nested := by
  unfold ofText
  split <;> exact nofun

theorem Operator.forValue_eq (operator : Operator) (value : Json) :
    operator.forValue value =
      if operator = .term ∧ value.isArray = true then .terms else operator := by
  cases operator with
  | term => simp only [forValue, true_and]
  | _ => rfl

theorem Operator.eq_of_forValue {operator result : Operator} {value : Json}
    (h : operator.forValue value = result) (hne : result ≠ .terms) : operator = result := by
  rw [forValue_eq] at h
  split at h
  · exact absurd h.symm hne
  · exact h

theorem Operator.isArray_of_forValue {operator : Operator} {value : Json}
    (h : operator.forValue value = .term) : value.isArray = false := by
  have hterm : operator = .term := eq_of_forValue h nofun
  by_contra hv
  rw [forValue_eq, if_pos ⟨hterm, eq_true_of_ne_false hv⟩] at h
  cases h

/-- Whether an operator under an occurrence is taken for a negated one, and what remains of it. -/
def readNegation (occur : Occur) (operator : List Char) : Bool × List Char :=
  if occur = .must then splitNegation operator else (false, operator)

theorem readNegation_of_not_negated {occur : Occur} {operator : List Char}
    (h : ¬(occur = .must ∧ Negated operator)) : readNegation occur operator = (false, operator) := by
  unfold readNegation
  split
  · next ho => exact splitNegation_of_not_negated fun hn => h ⟨ho, hn⟩
  · rfl

theorem readNegation_suffix (occur : Occur) (operator : List Char) :
    (readNegation occur operator).2 <:+ operator := by
  by_cases h : occur = .must ∧ Negated operator
  · obtain ⟨rfl, hn⟩ := h
    obtain ⟨rest, hrest, heq⟩ := splitNegation_of_negated hn
    rwa [readNegation, if_pos rfl, heq]
  · simp only [readNegation_of_not_negated h, List.suffix_rfl]

namespace Condition

/-- What a stored condition is like, however it was worded. -/
structure Canonical (c : Condition) : Prop where
  nested_iff : c.operator = .nested ↔ ∃ child, c.subject = .nested child
  value_nested : c.operator = .nested → c.value = .null ∧ c.boost = 0.0
  value_term : c.operator = .term → c.value.isArray = false
  trim_other : ∀ text, c.operator = .other text → Text.trim text = text
  lower_other : ∀ text, c.operator = .other text → Text.lower text = text
  unknown_other : ∀ text, c.operator = .other text → Operator.ofText text = .other text
  not_negated : ∀ text, c.operator = .other text → c.occur = .must → ¬Negated text.toList

theorem canonical_nest (occur : Occur) (child : ConditionSet) : (nest occur child).Canonical where
  nested_iff := ⟨fun _ => ⟨child, rfl⟩, fun _ => rfl⟩
  value_nested _ := ⟨rfl, rfl⟩
  value_term := nofun
  trim_other := nofun
  lower_other := nofun
  unknown_other := nofun
  not_negated := nofun

/-- The text of an operator under an occurrence, without its negation. -/
def operatorText (occur : Occur) (operator : String) : String :=
  Text.trim (String.ofList (readNegation occur (Text.normal operator).toList).2)

theorem onFields_eq (occur : Occur) (draft : Draft Subject) :
    onFields occur draft =
      { occur :=
          if (readNegation occur (Text.normal draft.operator).toList).1 then .mustNot else occur
        subject := draft.subject
        operator := (Operator.ofText (operatorText occur draft.operator)).forValue draft.value
        value := draft.value
        boost := draft.boost } := rfl

theorem occur_onFields (occur : Occur) (draft : Draft Subject) :
    (onFields occur draft).occur =
      if occur = .must ∧ Negated (Text.normal draft.operator).toList then .mustNot else occur := by
  rw [onFields_eq]
  by_cases h : occur = .must ∧ Negated (Text.normal draft.operator).toList
  · rw [if_pos h]
    obtain ⟨rfl, hn⟩ := h
    obtain ⟨rest, _, hsplit⟩ := splitNegation_of_negated hn
    simp only [readNegation, hsplit, if_true]
  · simp only [if_neg h, readNegation_of_not_negated h, Bool.false_eq_true, if_false]

theorem operator_onFields (occur : Occur) (draft : Draft Subject) :
    (onFields occur draft).operator =
      (Operator.ofText (operatorText occur draft.operator)).forValue draft.value := by
  rw [onFields_eq]

theorem subject_onFields (occur : Occur) (draft : Draft Subject) :
    (onFields occur draft).subject = draft.subject := rfl

theorem value_onFields (occur : Occur) (draft : Draft Subject) :
    (onFields occur draft).value = draft.value := rfl

theorem boost_onFields (occur : Occur) (draft : Draft Subject) :
    (onFields occur draft).boost = draft.boost := rfl

theorem trim_operatorText (occur : Occur) (operator : String) :
    Text.trim (operatorText occur operator) = operatorText occur operator := Text.trim_trim _

theorem lower_operatorText (occur : Occur) (operator : String) :
    Text.lower (operatorText occur operator) = operatorText occur operator := by
  refine Text.lower_eq_self fun c hc => Text.isLower_normal operator c ?_
  rw [operatorText, Text.trim, String.toList_ofList, String.toList_ofList] at hc
  exact (readNegation_suffix occur _).mem ((Text.trimChars_infix _).mem hc)

/-- Where nothing is taken off, nothing was left to trim. -/
theorem operatorText_of_not_negated {occur : Occur} {operator : String}
    (h : ¬(occur = .must ∧ Negated (Text.normal operator).toList)) :
    operatorText occur operator = Text.normal operator := by
  rw [operatorText, readNegation_of_not_negated h, String.ofList_toList, Text.trim_normal]

/-- An operator that is not known is kept as its text. -/
theorem other_onFields {occur : Occur} {draft : Draft Subject} {text : String}
    (h : (onFields occur draft).operator = .other text) :
    text = operatorText occur draft.operator ∧ Operator.ofText text = .other text := by
  rw [operator_onFields] at h
  have hother := Operator.eq_of_forValue h nofun
  obtain rfl := Operator.ofText_eq_other hother
  exact ⟨rfl, hother⟩

theorem operator_onFields_ne_nested (occur : Occur) (draft : Draft Subject) :
    (onFields occur draft).operator ≠ .nested := by
  rw [operator_onFields]
  exact fun h => Operator.ofText_ne_nested _ (Operator.eq_of_forValue h nofun)

theorem canonical_onFields (occur : Occur) {draft : Draft Subject}
    (hs : ∀ child, draft.subject ≠ .nested child) : (onFields occur draft).Canonical where
  nested_iff := by
    rw [subject_onFields]
    exact iff_of_false (operator_onFields_ne_nested occur draft) fun ⟨child, hc⟩ => hs child hc
  value_nested h := absurd h (operator_onFields_ne_nested occur draft)
  value_term h := by
    rw [operator_onFields] at h
    exact Operator.isArray_of_forValue h
  trim_other text h := by
    rw [(other_onFields h).1, trim_operatorText]
  lower_other text h := by
    rw [(other_onFields h).1, lower_operatorText]
  unknown_other text h := (other_onFields h).2
  not_negated text h ho hn := by
    rw [occur_onFields] at ho
    have hkept : ¬(occur = .must ∧ Negated (Text.normal draft.operator).toList) := by
      intro hneg
      rw [if_pos hneg] at ho
      cases ho
    rw [if_neg hkept] at ho
    rw [(other_onFields h).1, operatorText_of_not_negated hkept] at hn
    exact hkept ⟨ho, hn⟩

end Condition

/-! ### Sets -/

namespace ConditionSet

/-- The same set, or one nested in it at some depth. -/
def Within (child set : ConditionSet) : Prop := Relation.ReflTransGen NestedIn child set

/-- How a set stores its conditions. -/
structure Canonical (set : ConditionSet) : Prop where
  filed : Groups.Filed Condition.occur set.groups
  conditions : ∀ c ∈ Groups.values set.groups, c.Canonical
  isEmpty_iff : set.isEmpty = true ↔ set.size = 0

theorem foldl_push (conditions : List Condition) (set : ConditionSet) :
    conditions.foldl push set = ⟨Groups.fileAll Condition.occur set.groups conditions⟩ := by
  induction conditions generalizing set with
  | nil => cases set; rfl
  | cons c rest ih => exact ih (set.push c)

namespace Reachable

variable {set : ConditionSet}

theorem filed (h : set.Reachable) : Groups.Filed Condition.occur set.groups := by
  refine induct_push (P := fun set => Groups.Filed Condition.occur set.groups)
    Groups.filed_nil ?_ ?_ h
  · intro set child occur hset _
    exact hset.file (.nest occur child)
  · intro set occur draft _ hset
    exact hset.file (.onFields occur draft)

theorem canonical_conditions (h : set.Reachable) :
    ∀ c ∈ Groups.values set.groups, c.Canonical := by
  refine induct_push (P := fun set => ∀ c ∈ Groups.values set.groups, c.Canonical)
    (by simp [ConditionSet.empty, Groups.values]) ?_ ?_ h
  · intro set child occur hset _ c hc
    obtain hc | rfl := Groups.mem_values_file.mp hc
    · exact hset c hc
    · exact Condition.canonical_nest occur child
  · intro set occur draft hs hset c hc
    obtain hc | rfl := Groups.mem_values_file.mp hc
    · exact hset c hc
    · exact Condition.canonical_onFields occur hs

theorem canonical (h : set.Reachable) : set.Canonical where
  filed := h.filed
  conditions := h.canonical_conditions
  isEmpty_iff := by
    rw [ConditionSet.isEmpty, List.isEmpty_iff]
    exact h.filed.eq_nil_iff_size

theorem of_within {child : ConditionSet} (hc : child.Within set) (h : set.Reachable) :
    child.Reachable := by
  induction hc with
  | refl => exact h
  | tail _ hnested ih => exact ih (h.of_nestedIn hnested)

end Reachable

/-- Whatever calls a run makes, refused or not, the set that it leaves is canonical, and so is every
set nested in it at any depth. -/
theorem canonical_gather {set child : ConditionSet} (h : set.Reachable) (steps : List Step)
    (hc : child.Within (gather steps set).value) : child.Canonical :=
  (Reachable.of_within hc (reachable_gather steps set h)).canonical

end ConditionSet

/-- A negated condition, and one under should, where the mark of negation is kept. -/
def strangerSteps : List Step :=
  [.add "Must" ⟨.field "name", " NOT ~ ", .str "bob", 2.0⟩,
    .orWhere (.field "age") "!>=" (.ofNat 60)]

/-- Calls of which the first and the last are refused. A value files the strangers under filter. -/
def guestSteps : List Step :=
  [.add "sometimes" ⟨.field "age", "=", .ofNat 60, 0.0⟩,
    .whereIs (.field "tags") "Term" (.arr [.str "x"]),
    .apply "where" (.ofValue (.nested strangerSteps) (.str " Filter ")),
    .addNested "must" (some "or") []]

namespace ConditionSet

def strangers : ConditionSet := (gather strangerSteps .empty).value

def guests : ConditionSet := (gather guestSteps .empty).value

theorem values_guests : Groups.values guests.groups =
    [.onFields .must ⟨.field "tags", "Term", .arr [.str "x"], 0.0⟩, .nest .filter strangers] := rfl

theorem strangers_within : strangers.Within (gather [.nest .should guestSteps] .empty).value := by
  have hguests : strangers.NestedIn guests :=
    ⟨.nest .filter strangers, by simp [values_guests], rfl⟩
  have hall : guests.NestedIn (gather [.nest .should guestSteps] .empty).value :=
    ⟨.nest .should guests, List.mem_singleton_self _, rfl⟩
  exact .tail (.tail .refl hguests) hall

theorem canonical_gather_strangers :
    ConditionSet.empty.Reachable ∧
      strangers.Within (gather [.nest .should guestSteps] .empty).value ∧
      strangers.Canonical ∧ strangers.size = 2 :=
  ⟨.empty, strangers_within, canonical_gather .empty [.nest .should guestSteps] strangers_within,
    rfl⟩

end ConditionSet

end SearchQuery

import SearchQuery.Condition.Basic
import SearchQuery.Event
import SearchQuery.Logged
import SearchQuery.Verb

/-! How a caller's words become a condition. The operator is read up to blanks and letter case, a
negated operator under must moves the condition to must_not, and equality with a list is membership.
A nested set of conditions takes no operator, value or boost, but a value that is a text may name
its occurrence. -/
namespace SearchQuery

/-- A condition as a caller words it, with its subject still to be built or built already. -/
structure Draft (σ : Type) where
  subject : σ
  operator : String
  value : Json
  boost : Float

/-- The arguments of a verb. -/
inductive Arguments (σ : Type) where
  | ofSubject (subject : σ)
  | ofValue (subject : σ) (value : Json)
  | ofOperator (subject : σ) (operator : String) (value : Json)
  | ofBoost (subject : σ) (operator : String) (value : Json) (boost : Float)

/-- The same words about another subject. -/
def Draft.about {σ τ : Type} (draft : Draft σ) (subject : τ) : Draft τ :=
  ⟨subject, draft.operator, draft.value, draft.boost⟩

def Arguments.subject {σ : Type} : Arguments σ → σ
  | .ofSubject subject | .ofValue subject _ | .ofOperator subject _ _ | .ofBoost subject _ _ _ =>
    subject

/-- The same arguments about another subject. -/
def Arguments.about {σ τ : Type} (arguments : Arguments σ) (subject : τ) : Arguments τ :=
  match arguments with
  | .ofSubject _ => .ofSubject subject
  | .ofValue _ value => .ofValue subject value
  | .ofOperator _ operator value => .ofOperator subject operator value
  | .ofBoost _ operator value boost => .ofBoost subject operator value boost

theorem Arguments.about_subject {σ : Type} (arguments : Arguments σ) :
    arguments.about arguments.subject = arguments := by
  cases arguments <;> rfl

theorem Arguments.subject_about {σ τ : Type} (arguments : Arguments σ) (subject : τ) :
    (arguments.about subject).subject = subject := by
  cases arguments <;> rfl

theorem Arguments.about_about {σ τ υ : Type} (arguments : Arguments σ) (subject : τ)
    (other : υ) : (arguments.about subject).about other = arguments.about other := by
  cases arguments <;> rfl

/-- What the verb says where the arguments are silent. -/
def Arguments.draft {σ : Type} (verb : Verb) : Arguments σ → Draft σ
  | .ofSubject subject => ⟨subject, verb.operator, .null, 0.0⟩
  | .ofValue subject value => ⟨subject, verb.operator, value, 0.0⟩
  | .ofOperator subject operator value => ⟨subject, operator, value, 0.0⟩
  | .ofBoost subject operator value boost => ⟨subject, operator, value, boost⟩

theorem Arguments.subject_draft {σ : Type} (verb : Verb) (arguments : Arguments σ) :
    (arguments.draft verb).subject = arguments.subject := by
  cases arguments <;> rfl

theorem Arguments.draft_about {σ τ : Type} (verb : Verb) (arguments : Arguments σ) (subject : τ) :
    (arguments.about subject).draft verb = (arguments.draft verb).about subject := by
  cases arguments <;> rfl

/-- One exclamation mark and then one word not are taken off; either negates. -/
def splitNegation (operator : List Char) : Bool × List Char :=
  let (marked, rest) :=
    match operator with
    | '!' :: rest => (true, rest)
    | _ => (false, operator)
  match rest with
  | 'n' :: 'o' :: 't' :: rest => (true, rest)
  | _ => (marked, rest)

/-- Equality with a list is membership in it. -/
def Operator.forValue (value : Json) : Operator → Operator
  | .term => if value.isArray then .terms else .term
  | operator => operator

namespace Condition

/-- A nested set of conditions. -/
def nest (occur : Occur) (conditions : ConditionSet) : Condition :=
  ⟨occur, .nested conditions, .nested, .null, 0.0⟩

/-- A condition on fields, with its operator in any spelling. -/
def onFields (occur : Occur) (draft : Draft Subject) : Condition :=
  let operator := (Text.normal draft.operator).toList
  let (negated, operator) := if occur = .must then splitNegation operator else (false, operator)
  { occur := if negated then .mustNot else occur
    subject := draft.subject
    operator := (Operator.ofText (Text.trim (String.ofList operator))).forValue draft.value
    value := draft.value
    boost := draft.boost }

def ofDraft (occur : Occur) (draft : Draft Subject) : Condition :=
  match draft.subject with
  | .nested conditions => nest occur conditions
  | _ => onFields occur draft

end Condition

/-- The occurrence that the value of a nested subject names, unless it is blank. -/
def Draft.occurName? (draft : Draft Subject) : Option String :=
  match draft.subject, draft.value with
  | .nested _, .str name => if (Text.trim name).isEmpty then none else some name
  | _, _ => none

def Draft.occur (base : Occur) (draft : Draft Subject) : Except Error Occur :=
  match draft.occurName? with
  | some name => Occur.parse name
  | none => .ok base

/-- The occurrence of a nested set: the overriding name, unless it is empty, or else the base
one. -/
def Occur.ofNames (base : String) (override? : Option String) : Except Error Occur :=
  match override? with
  | some name => if name.isEmpty then parse base else parse name
  | none => parse base

namespace Condition

/-- A condition under an occurrence given by name. -/
def add (occur : String) (draft : Draft Subject) : Except Error Condition := do
  let base ← Occur.parse occur
  return ofDraft (← draft.occur base) draft

/-- A condition by a verb. -/
def apply (verb : Verb) (arguments : Arguments Subject) : Except Error Condition := do
  let draft := arguments.draft verb
  return ofDraft (← draft.occur verb.occur) draft

/-- A condition by a verb that is never refused: where the value names no occurrence, the verb's
own stands. -/
def record (verb : Verb) (arguments : Arguments Subject) : Logged Event Condition := do
  let draft := arguments.draft verb
  match draft.occur verb.occur with
  | .ok occur => return ofDraft occur draft
  | .error error =>
    Logged.note (.occurKept error verb)
    return ofDraft verb.occur draft

end Condition

namespace ConditionSet

def add (set : ConditionSet) (occur : String) (draft : Draft Subject) :
    Except Error ConditionSet := do
  return set.push (← Condition.add occur draft)

def addNested (set : ConditionSet) (occur : String) (override? : Option String)
    (conditions : ConditionSet) : Except Error ConditionSet := do
  return set.push (.nest (← Occur.ofNames occur override?) conditions)

def apply (set : ConditionSet) (verb : Verb) (arguments : Arguments Subject) :
    Except Error ConditionSet := do
  return set.push (← Condition.apply verb arguments)

def record (set : ConditionSet) (verb : Verb) (arguments : Arguments Subject) :
    Logged Event ConditionSet := do
  return set.push (← Condition.record verb arguments)

end ConditionSet

end SearchQuery

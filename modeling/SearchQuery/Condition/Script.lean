import SearchQuery.Condition.Draft

/-! Conditions as a script of steps. A nested set is a script of its own, which runs when the step
that holds it is reached. A step that is refused leaves its set as it was, and the next one runs. -/
namespace SearchQuery

mutual

/-- A subject still to be built. -/
inductive Target where
  | field (name : String)
  | fields (names : List String)
  | nested (steps : List Step)

inductive Step where
  | add (occur : String) (draft : Draft Target)
  | addNested (occur : String) (override? : Option String) (steps : List Step)
  | apply (verb : String) (arguments : Arguments Target)
  | record (verb : Verb) (arguments : Arguments Target)
  | nest (occur : Occur) (steps : List Step)

end

/-! ### Shorthands

A shorthand is a step with its verb, or its occurrence, already chosen. Those of one verb differ in
the arguments they take and leave the others to the verb. -/

namespace Step

def whereIs (target : Target) (operator : String) (value : Json) : Step :=
  .record .whereIs (.ofOperator target operator value)

def whereEq (target : Target) (value : Json) : Step := .record .whereIs (.ofValue target value)

def whereBoosted (target : Target) (operator : String) (value : Json) (boost : Float) : Step :=
  .record .whereIs (.ofBoost target operator value boost)

def whereIn (target : Target) (values : Json) : Step := .record .whereIn (.ofValue target values)

def whereNotIn (target : Target) (values : Json) : Step :=
  .record .whereNotIn (.ofValue target values)

def filter (target : Target) (operator : String) (value : Json) : Step :=
  .record .filter (.ofOperator target operator value)

def filterEq (target : Target) (value : Json) : Step := .record .filter (.ofValue target value)

def filterIn (target : Target) (values : Json) : Step := .record .filterIn (.ofValue target values)

def filterNotIn (target : Target) (values : Json) : Step :=
  .record .filterNotIn (.ofValue target values)

def orWhere (target : Target) (operator : String) (value : Json) : Step :=
  .record .orWhere (.ofOperator target operator value)

def orWhereEq (target : Target) (value : Json) : Step := .record .orWhere (.ofValue target value)

def orWhereBoosted (target : Target) (operator : String) (value : Json) (boost : Float) : Step :=
  .record .orWhere (.ofBoost target operator value boost)

def orFilter (target : Target) (operator : String) (value : Json) : Step :=
  .record .orFilter (.ofOperator target operator value)

def present (target : Target) : Step := .record .present (.ofSubject target)

def absent (target : Target) : Step := .record .absent (.ofSubject target)

def whereNested (steps : List Step) : Step := .nest .must steps

def orWhereNested (steps : List Step) : Step := .nest .should steps

def filterNested (steps : List Step) : Step := .nest .filter steps

end Step

/-- What is noted while a script runs. -/
inductive Remark where
  | refused (error : Error)
  | logged (event : Event)

def Remark.event? : Remark → Option Event
  | .logged event => some event
  | .refused _ => none

def Remark.error? : Remark → Option Error
  | .refused error => some error
  | .logged _ => none

mutual

def Target.build : Target → Logged Remark Subject
  | .field name => pure (.field name)
  | .fields names => pure (.fields names)
  | .nested steps => do return .nested (← gather steps .empty)

def Arguments.build : Arguments Target → Logged Remark (Arguments Subject)
  | .ofSubject target => do return .ofSubject (← target.build)
  | .ofValue target value => do return .ofValue (← target.build) value
  | .ofOperator target operator value => do return .ofOperator (← target.build) operator value
  | .ofBoost target operator value boost => do
    return .ofBoost (← target.build) operator value boost

/-- The condition that a step adds. Subjects are built before anything is refused; the script of a
nested set runs only once its occurrence is known. -/
def Step.condition : Step → Logged Remark (Except Error Condition)
  | .add occur ⟨target, operator, value, boost⟩ => do
    let subject ← target.build
    return Condition.add occur ⟨subject, operator, value, boost⟩
  | .addNested base override? steps =>
    match Occur.ofNames base override? with
    | .error error => pure (.error error)
    | .ok occur => do return .ok (.nest occur (← gather steps .empty))
  | .apply verb arguments => do
    let arguments ← Arguments.build arguments
    return (Verb.parse verb).bind fun verb => Condition.apply verb arguments
  | .record verb arguments => do
    let arguments ← Arguments.build arguments
    return .ok (← (Condition.record verb arguments).mapLog .logged)
  | .nest occur steps => do return .ok (.nest occur (← gather steps .empty))

/-- A set with the conditions of the steps that are not refused. -/
def gather : List Step → ConditionSet → Logged Remark ConditionSet
  | [], set => pure set
  | step :: rest, set => do
    match ← step.condition with
    | .ok condition => gather rest (set.push condition)
    | .error error =>
      Logged.note (.refused error)
      gather rest set

end

end SearchQuery

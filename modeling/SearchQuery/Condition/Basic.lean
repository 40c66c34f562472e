import SearchQuery.Groups
import SearchQuery.Json.Same
import SearchQuery.Occur
import SearchQuery.Operator

/-! Conditions and sets of conditions. A set files its conditions under their occurrences, and the
occurrences stand in the order in which they were first used. -/
namespace SearchQuery

mutual

/-- What a condition is about: a field, several fields at once, or a set of conditions of its
own. -/
inductive Subject where
  | field (name : String)
  | fields (names : List String)
  | nested (conditions : ConditionSet)

/-- The value is null where there is none, and a boost of zero or less is none. -/
structure Condition where
  occur : Occur
  subject : Subject
  operator : Operator
  value : Json
  boost : Float

structure ConditionSet where
  groups : List (Occur × List Condition)

end

namespace ConditionSet

def empty : ConditionSet := ⟨[]⟩

def isEmpty (set : ConditionSet) : Bool := set.groups.isEmpty

/-- The number of conditions, a nested set counting as one. -/
def size (set : ConditionSet) : Nat := Groups.size set.groups

/-- The conditions of one occurrence. -/
def under (set : ConditionSet) (occur : Occur) : List Condition := Groups.under set.groups occur

def push (set : ConditionSet) (condition : Condition) : ConditionSet :=
  ⟨Groups.file condition.occur condition set.groups⟩

theorem under_push (set : ConditionSet) (condition : Condition) (occur : Occur) :
    (set.push condition).under occur =
      if condition.occur = occur then set.under occur ++ [condition] else set.under occur :=
  Groups.under_file ..

theorem under_push_own (set : ConditionSet) (condition : Condition) :
    (set.push condition).under condition.occur = set.under condition.occur ++ [condition] := by
  rw [under_push, if_pos rfl]

theorem under_push_of_ne {condition : Condition} {occur : Occur} (h : condition.occur ≠ occur)
    (set : ConditionSet) : (set.push condition).under occur = set.under occur := by
  rw [under_push, if_neg h]

end ConditionSet

/-- No name, no names, or no conditions. -/
def Subject.isEmpty : Subject → Bool
  | .field name => name.isEmpty
  | .fields names => names.isEmpty
  | .nested conditions => conditions.isEmpty

/-! ### Equality -/

mutual

def Subject.same : Subject → Subject → Bool
  | .field a, .field b => a == b
  | .fields as, .fields bs => as == bs
  | .nested a, .nested b => a.same b
  | _, _ => false

/-- Boosts are compared as numbers. -/
def Condition.same : Condition → Condition → Bool
  | ⟨occur, subject, operator, value, boost⟩, b =>
    occur == b.occur && subject.same b.subject && operator == b.operator &&
      value.same b.value && boost == b.boost

/-- The order of the occurrences counts, and the order of the conditions under each. -/
def ConditionSet.same : ConditionSet → ConditionSet → Bool
  | ⟨as⟩, ⟨bs⟩ => sameGroups as bs

def sameGroups : List (Occur × List Condition) → List (Occur × List Condition) → Bool
  | [], [] => true
  | (k, as) :: rest, (l, bs) :: others => k == l && sameConditions as bs && sameGroups rest others
  | _, _ => false

def sameConditions : List Condition → List Condition → Bool
  | [], [] => true
  | a :: as, b :: bs => a.same b && sameConditions as bs
  | _, _ => false

end

instance : BEq ConditionSet := ⟨ConditionSet.same⟩

end SearchQuery

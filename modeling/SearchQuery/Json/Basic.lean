import SearchQuery.Entries

/-! JSON values. Members keep their order, and whole numbers stay apart from doubles. -/
namespace SearchQuery

inductive Number where
  | int (value : Int)
  | float (value : Float)

inductive Json where
  | null
  | bool (value : Bool)
  | num (number : Number)
  | str (text : String)
  | arr (items : List Json)
  | obj (members : List (String × Json))

instance : Inhabited Json := ⟨.null⟩

namespace Json

def ofNat (n : Nat) : Json := .num (.int n)

def ofStrings (texts : List String) : Json := .arr (texts.map .str)

/-- JSON has no infinities, nor a number that is not one. -/
def ofFloat (x : Float) : Json := if x.isFinite then .num (.float x) else .null

/-- An object of one member. -/
def single (key : String) (value : Json) : Json := .obj [(key, value)]

/-- A record as an object, written part by part. A part that is none is left out. -/
def ofParts (parts : List (String × Option Json)) : Json :=
  .obj (parts.foldl (fun members (name, part) =>
    match part with
    | some value => Entries.insert name value members
    | none => members) [])

/-- The member of an object. -/
def get? (json : Json) (key : String) : Option Json :=
  match json with
  | .obj members => Entries.get? members key
  | _ => none

/-- The value reached by a chain of members. -/
def path? (json : Json) : List String → Option Json
  | [] => some json
  | key :: rest => (json.get? key).bind (·.path? rest)

/-- What a chain of members leads to, taken out of the value, and the value with null left in its
place. -/
def take (json : Json) : List String → Option Json × Json
  | [] => (some json, .null)
  | key :: rest =>
    match json with
    | .obj members =>
      match Entries.get? members key with
      | some inner =>
        let (taken, left) := inner.take rest
        (taken, .obj (Entries.insert key left members))
      | none => (none, json)
    | _ => (none, json)

/-- Null and what has nothing in it. -/
def isEmpty : Json → Bool
  | .null => true
  | .str text => text.isEmpty
  | .arr items => items.isEmpty
  | .obj members => members.isEmpty
  | _ => false

def isArray : Json → Bool
  | .arr _ => true
  | _ => false

def isNull : Json → Bool
  | .null => true
  | _ => false

end Json

end SearchQuery

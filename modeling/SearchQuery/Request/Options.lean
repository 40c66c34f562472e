import SearchQuery.Json.Basic
import SearchQuery.Text.Normal

/-! What a request asks for besides its conditions: its target, the page, the order, the fields to
return, and a body in place of the one made from the conditions. -/
namespace SearchQuery

inductive Direction where
  | asc
  | desc
  deriving DecidableEq, Repr

namespace Direction

def name : Direction → String
  | .asc => "asc"
  | .desc => "desc"

def ofName? (name : String) : Option Direction :=
  if name = "asc" then some .asc else if name = "desc" then some .desc else none

/-- Names are read up to blanks around them and letter case. -/
def parse? (text : String) : Option Direction := ofName? (Text.normal text)

end Direction

structure SortKey where
  field : String
  direction : Direction
  deriving DecidableEq, Repr

/-- A caller's own body, or the wish to send none. -/
inductive Body where
  | raw (value : Json)
  | suppressed

namespace Body

def sent? : Body → Option Json
  | .raw value => some value
  | .suppressed => none

/-- Whether a value that is neither an object nor an array counts as true. -/
def isTruthy : Json → Bool
  | .bool value => value
  | .str text => !text.isEmpty && text != "0"
  | .num (.int n) => n != 0
  | .num (.float x) => x != 0.0
  | _ => false

/-- An object or an array is sent unless it is empty; any other value asks for no body, if it counts
as true. -/
def ofValue? (value : Json) : Option Body :=
  match value with
  | .obj _ | .arr _ => if value.isEmpty then none else some (.raw value)
  | _ => if isTruthy value then some .suppressed else none

end Body

/-- A page size of zero is none. -/
structure Options where
  index : String
  docType : String
  id : Option String := none
  offset : Nat := 0
  size : Nat := 0
  sort : List SortKey := []
  source : List String := []
  collapse : Option String := none
  groupBy : Option String := none
  body : Option Body := none

def Options.isGrouped (options : Options) : Bool := options.groupBy.isSome

/-- A name that may be empty, which is none. -/
def nonEmpty? (name : String) : Option String := if name.isEmpty then none else some name

end SearchQuery

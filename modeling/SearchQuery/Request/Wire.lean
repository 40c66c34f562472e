import SearchQuery.Json.Basic
import SearchQuery.Occur
import SearchQuery.Request.Options

/-! Names and sort keys in JSON. A name out of a fixed set is a text, or the one key of an object
with null under it. -/
namespace SearchQuery

def Json.tag? : Json → Option String
  | .str name => some name
  | .obj [(name, .null)] => some name
  | _ => none

def Occur.ofJson? (json : Json) : Option Occur := json.tag?.bind Occur.ofName?

def Occur.toJson (occur : Occur) : Json := .str occur.name

def Direction.ofJson? (json : Json) : Option Direction := json.tag?.bind Direction.ofName?

def Direction.toJson (direction : Direction) : Json := .str direction.name

namespace SortKey

def ofParts? : Json → Json → Option SortKey
  | .str field, direction => (Direction.ofJson? direction).map fun direction => ⟨field, direction⟩
  | _, _ => none

/-- A sort key is an object, whose other members do not count, or the list of its parts. -/
def ofJson? : Json → Option SortKey
  | .obj members => do
    ofParts? (← Entries.get? members "field") (← Entries.get? members "direction")
  | .arr [field, direction] => ofParts? field direction
  | _ => none

def toJson (key : SortKey) : Json :=
  .obj [("field", .str key.field), ("direction", key.direction.toJson)]

end SortKey

end SearchQuery

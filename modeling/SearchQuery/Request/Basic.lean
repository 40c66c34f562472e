import SearchQuery.Json.Same
import SearchQuery.Json.Writer

/-! Requests to the search engine, in the form in which they are sent and read back. -/
namespace SearchQuery

structure Request where
  index : String
  docType : String
  id : Option String
  body : Option Json

namespace Request

/-- An identifier or a body that is missing has no member. -/
def toJson (request : Request) : Json :=
  .obj ([("index", .str request.index), ("type", .str request.docType)] ++
    (request.id.toList.map fun id => ("id", .str id)) ++
    (request.body.toList.map fun body => ("body", body)))

def text (request : Request) : String := request.toJson.pretty

/-- What a request consists of, under the names that it is written with. -/
def parts (request : Request) : List (String × Option Json) :=
  [("index", some (.str request.index)), ("type", some (.str request.docType)),
    ("id", request.id.map .str), ("body", request.body)]

/-- A request written as records are in general. -/
def written (request : Request) : Json := .ofParts request.parts

def sameBody : Option Json → Option Json → Bool
  | some a, some b => a.same b
  | none, none => true
  | _, _ => false

/-- The order of members does not count in bodies either. -/
def same (a b : Request) : Bool :=
  a.index == b.index && a.docType == b.docType && a.id == b.id && sameBody a.body b.body

instance : BEq Request := ⟨same⟩

/-- Absent or null is none. -/
def optionalText? : Option Json → Option (Option String)
  | none | some .null => some none
  | some (.str text) => some (some text)
  | some _ => none

def optionalValue : Option Json → Option Json
  | none | some .null => none
  | some value => some value

def ofParts? (index docType : Json) (id body : Option Json) : Option Request :=
  match index, docType, optionalText? id with
  | .str index, .str docType, some id => some ⟨index, docType, id, optionalValue body⟩
  | _, _, _ => none

/-- A request is an object, whose other members do not count, or the list of its parts. -/
def ofJson? : Json → Option Request
  | .obj members => do
    let index ← Entries.get? members "index"
    let docType ← Entries.get? members "type"
    ofParts? index docType (Entries.get? members "id") (Entries.get? members "body")
  | .arr [index, docType] => ofParts? index docType none none
  | .arr [index, docType, id] => ofParts? index docType (some id) none
  | .arr [index, docType, id, body] => ofParts? index docType (some id) (some body)
  | _ => none

end Request

end SearchQuery

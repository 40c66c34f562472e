import SearchQuery.Reply.Reshape
import SearchQuery.Request.Bulk
import SearchQuery.Search.Basic

/-! Operations that speak to the search engine. Each makes one call at most, after all that can be
refused has been checked, and reads the engine's reply. -/
namespace SearchQuery

/-- What the search engine is asked to do. -/
inductive Call where
  | search (request : Request)
  | get (request : Request)
  | index (request : Request)
  | update (request : Request)
  | delete (request : Request)
  | bulk (bulk : Bulk)

/-- A search engine, as one operation meets it. -/
abbrev Engine := Call → Except TransportError Json

/-- Merging of sources is as the search's defaults have it, unless the operation says. -/
inductive Operation where
  | raw
  | results (merge : Option Bool)
  | first (merge : Option Bool)
  | count
  | find (id : Option String) (merge : Option Bool)
  | insert (document : Json)
  | bulkInsert (rows : List Json)
  | update (document : Json) (id : Option String)
  | delete (id : Option String)

inductive Answer where
  | raw (reply : Json)
  | results (results : Results)
  | record (record : Option Record)
  | count (count : Nat)

/-- What an operation leaves behind: the search, the calls made, and the answer. -/
structure Outcome where
  search : Search
  calls : List Call
  answer : Except Error Answer

namespace Search

/-- The search with the identifier that an operation brings, if it brings one. -/
def address (search : Search) : Operation → Search
  | .find id _ | .update _ id | .delete id =>
    match id.bind nonEmpty? with
    | some id => search.edit (.id id)
    | none => search
  | _ => search

/-- The call of a request, once it is known not to be refused. -/
def send (event : Request → Event) (call : Request → Call)
    (request : Logged Event (Except Error Request)) : Logged Event (Except Error Call) := do
  match ← request with
  | .error error => return .error error
  | .ok request =>
    Logged.note (event request)
    return .ok (call request)

/-- A request for one document, which needs an identifier. -/
def requestFor (search : Search) (task : Task) (body : Body) :
    Logged Event (Except Error Request) := do
  return (← search.options.requestWith body).bind fun request =>
    if request.id.isNone then .error (.idMissing task) else .ok request

def callSearch (search : Search) : Logged Event (Except Error Call) :=
  send (fun request => .searching request.index) .search search.request

def callFind (search : Search) : Logged Event (Except Error Call) :=
  send (fun request => .getting request.index request.id) .get (search.requestFor .find .suppressed)

def callBulk (search : Search) (rows : List Json) : Logged Event (Except Error Call) := do
  if rows.isEmpty then return .error (.nothingToWrite .bulkInsert)
  if search.options.index.isEmpty then return .error .indexMissing
  let bulk := Bulk.ofRows search.options.index search.options.docType rows
  Logged.note (.indexingBulk search.options.index bulk.size)
  return .ok (.bulk bulk)

/-- A list is a bulk request; an object that is not empty is one document. -/
def callInsert (search : Search) (document : Json) : Logged Event (Except Error Call) :=
  match document with
  | .arr rows => search.callBulk rows
  | .obj (_ :: _) =>
    send (fun request => .indexing request.index request.id) .index
      (search.options.requestWith (.raw document))
  | _ => pure (.error (.nothingToWrite .insert))

def callUpdate (search : Search) (document : Json) : Logged Event (Except Error Call) :=
  if document.isEmpty then pure (.error (.nothingToWrite .update))
  else
    send (fun request => .updating request.index request.id) .update
      (search.requestFor .update (.raw (.single "doc" document)))

def callDelete (search : Search) : Logged Event (Except Error Call) :=
  send (fun request => .deleting request.index request.id) .delete
    (search.requestFor .delete .suppressed)

/-- The call of an operation whose identifier is set already. -/
def call (search : Search) : Operation → Logged Event (Except Error Call)
  | .raw | .results _ | .first _ | .count => search.callSearch
  | .find _ _ => search.callFind
  | .insert document => search.callInsert document
  | .bulkInsert rows => search.callBulk rows
  | .update document _ => search.callUpdate document
  | .delete _ => search.callDelete

/-- What an operation makes of the engine's reply. -/
def read (search : Search) (reply : Json) : Operation → Logged Event Answer
  | .results merge => do
    return .results (← Reply.results reply (merge.getD search.defaults.mergeSource))
  | .first merge => do
    let results ← Reply.results reply (merge.getD search.defaults.mergeSource)
    return .record results.records.first?
  | .count => do return .count (← Reply.results reply false).total
  | .find _ merge =>
    pure (.record (Reply.document? reply (merge.getD search.defaults.mergeSource)))
  | _ => pure (.raw reply)

def perform (search : Search) (engine : Engine) (operation : Operation) :
    Logged Event Outcome := do
  let search := search.address operation
  match ← search.call operation with
  | .error error => return ⟨search, [], .error error⟩
  | .ok call =>
    match engine call with
    | .error error => return ⟨search, [call], .error (.transport error)⟩
    | .ok reply => return ⟨search, [call], .ok (← search.read reply operation)⟩

end Search

end SearchQuery

/-! Why a call is refused, or why it failed on its way to the search engine. -/
namespace SearchQuery

/-- What can go wrong between the program and the search engine. -/
inductive TransportError where
  | status (code : Nat) (reason : String)
  | connection (text : String)
  | other (text : String)
  deriving DecidableEq, Repr

def TransportError.message : TransportError → String
  | .status code reason => "Search engine returned status " ++ toString code ++ ": " ++ reason
  | .connection text => "Connection failed: " ++ text
  | .other text => text

/-- The operations that address one document or write. -/
inductive Task where
  | find
  | insert
  | bulkInsert
  | update
  | delete
  deriving DecidableEq, Repr

def Task.name : Task → String
  | .find => "find"
  | .insert => "insert"
  | .bulkInsert => "bulk_insert"
  | .update => "update"
  | .delete => "delete"

inductive Error where
  | indexMissing
  | idMissing (task : Task)
  | nothingToWrite (task : Task)
  | unknownOccur (name : String)
  | modesConflict (collapse groupBy : String)
  | unknownVerb (name : String)
  | transport (error : TransportError)
  deriving DecidableEq, Repr

def Error.message : Error → String
  | .indexMissing => "Index is empty: call set_index before compiling"
  | .idMissing task => "Document id is required for " ++ task.name
  | .nothingToWrite task => "Empty input for " ++ task.name
  | .unknownOccur name => "Boolean bucket '" ++ name ++ "' is not recognized"
  | .modesConflict collapse groupBy =>
    "Collapse on '" ++ collapse ++ "' cannot be combined with group by '" ++ groupBy ++ "'"
  | .unknownVerb name => "Unknown builder verb: " ++ name
  | .transport error => error.message

/-- Steps that may be refused succeed when each does. -/
theorem Error.bind_eq_ok_iff {α β : Type} {x : Except Error α} {f : α → Except Error β} {b : β} :
    (x >>= f) = .ok b ↔ ∃ a, x = .ok a ∧ f a = .ok b := by
  cases x <;> simp [bind, Except.bind]

end SearchQuery

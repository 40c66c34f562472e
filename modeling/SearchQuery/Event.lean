import SearchQuery.Condition.Basic
import SearchQuery.Logged
import SearchQuery.Verb

/-! What is logged while a query is built, sent and answered. -/
namespace SearchQuery

inductive Event where
  | suppressed (operator : Operator) (subject : Subject)
  | unrecognized (operator : String) (occur : Occur)
  | occurKept (error : Error) (verb : Verb)
  | groupQuery (index field : String)
  | query (index : String) (id : Option String) (hasBody : Bool)
  | searching (index : String)
  | getting (index : String) (id : Option String)
  | indexing (index : String) (id : Option String)
  | indexingBulk (index : String) (count : Nat)
  | updating (index : String) (id : Option String)
  | deleting (index : String) (id : Option String)
  | grouped (count : Nat)

/-- An identifier that may be missing, in quotes. -/
def optionText : Option String → String
  | some text => "Some(" ++ Text.quote text ++ ")"
  | none => "None"

/-- A nested set is named only. -/
def Subject.text : Subject → String
  | .field name => "Field(" ++ Text.quote name ++ ")"
  | .fields names => "Fields(" ++ Text.quoteList names ++ ")"
  | .nested _ => "Sub"

namespace Event

def level : Event → Level
  | .suppressed .. | .grouped .. => .trace
  | .unrecognized .. | .occurKept .. => .warn
  | _ => .debug

def text : Event → String
  | .suppressed operator subject =>
    "Suppressed " ++ operator.label ++ " predicate on " ++ subject.text ++
      ": empty column or value"
  | .unrecognized operator occur =>
    "Unrecognized operator " ++ Text.quote operator ++ " in " ++ occur.name ++
      " bucket, compiling to match_all"
  | .occurKept error verb =>
    error.message ++ ", keeping " ++ verb.occur.name ++ " for " ++ verb.name ++ " sub-query"
  | .groupQuery index field => "Compiling group query on " ++ index ++ " grouped by " ++ field
  | .query index id hasBody =>
    "Compiled query on " ++ index ++ " (id: " ++ optionText id ++ ", body: " ++
      (if hasBody then "true" else "false") ++ ")"
  | .searching index => "search on " ++ index
  | .getting index id => "get " ++ optionText id ++ " from " ++ index
  | .indexing index id => "index into " ++ index ++ " (id: " ++ optionText id ++ ")"
  | .indexingBulk index count =>
    "bulk insert of " ++ toString count ++ " documents into " ++ index
  | .updating index id => "update " ++ optionText id ++ " in " ++ index
  | .deleting index id => "delete " ++ optionText id ++ " from " ++ index
  | .grouped count => "Reshaped " ++ toString count ++ " groups"

end Event

end SearchQuery

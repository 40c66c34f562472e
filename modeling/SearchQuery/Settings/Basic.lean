import SearchQuery.Search.Basic

/-! Settings: the defaults that searches start with, and which settings are valid. -/
namespace SearchQuery

/-- The direction is kept as it is written. A time that is not given is none. -/
structure Settings where
  schemaVersion : String := "1.0.0"
  createdAt : Option String := none
  lastModified : Option String := none
  docType : String := "_doc"
  direction : String := "asc"
  mergeSource : Bool := true

/-- What is wrong with a setting. -/
structure Problem where
  path : String
  message : String
  deriving DecidableEq, Repr

def Problem.text (problem : Problem) : String :=
  "ValidationError \x7b path: " ++ Text.quote problem.path ++ ", message: " ++
    Text.quote problem.message ++ " \x7d"

namespace Settings

/-- Ascending, unless the settings name a direction. -/
def sortDirection (settings : Settings) : Direction :=
  (Direction.parse? settings.direction).getD .asc

def defaults (settings : Settings) : Defaults :=
  ⟨settings.docType, settings.sortDirection, settings.mergeSource⟩

def versionProblems (settings : Settings) : List Problem :=
  if settings.schemaVersion = "1.0.0" then []
  else [⟨"_meta.schema_version", "Unsupported schema version: " ++ settings.schemaVersion⟩]

def docTypeProblems (settings : Settings) : List Problem :=
  if (Text.trim settings.docType).isEmpty then
    [⟨"index.default_type", "Default document type cannot be empty"⟩]
  else []

def directionProblems (settings : Settings) : List Problem :=
  if (Direction.parse? settings.direction).isSome then []
  else
    [⟨"query.default_direction",
      "Invalid sort direction: " ++ settings.direction ++ " (must be 'asc' or 'desc')"⟩]

def problems (settings : Settings) : List Problem :=
  settings.versionProblems ++ settings.docTypeProblems ++ settings.directionProblems

end Settings

end SearchQuery

import SearchQuery.Settings.Override
import SearchQuery.Settings.Path
import SearchQuery.Toml.Reader
import SearchQuery.Toml.Writer

/-! Settings in files: where the file is, what it says, and what it is written as. -/
namespace SearchQuery.Settings

/-! ### Errors -/

inductive Error where
  | malformed
  | invalid (problems : List Problem)
  | notFound (path : String)
  | unreadable (path : String) (fault : Fault)
  | unwritable (path : String) (fault : Fault)
  deriving DecidableEq, Repr

def Error.message : Error → String
  | .malformed => "TOML error"
  | .invalid problems =>
    "Configuration validation failed: [" ++ ", ".intercalate (problems.map Problem.text) ++ "]"
  | .notFound path => "Configuration file not found: " ++ path
  | .unreadable path fault =>
    "IO error: Failed to read config file: " ++ Text.quote path ++ ": " ++ fault.text
  | .unwritable path fault =>
    "IO error: Failed to write config file: " ++ Text.quote path ++ ": " ++ fault.text

/-! ### Reading -/

/-- The fields of a record, which is a table or the list of its fields in order. A date has none of
them. -/
def fields? (names : List String) : Toml → Option (Entries Toml)
  | .table entries => some entries
  | .arr items => some (names.zip items)
  | .datetime _ => some []
  | _ => none

/-- A text that may be missing. -/
def text? (fields : Entries Toml) (name : String) : Option (Option String) :=
  match Entries.get? fields name with
  | none => some none
  | some (.str text) => some (some text)
  | some _ => none

def bool? (fields : Entries Toml) (name : String) : Option (Option Bool) :=
  match Entries.get? fields name with
  | none => some none
  | some (.bool value) => some (some value)
  | some _ => none

/-- The schema version is the one field without a default, and fields of other names do not
count. -/
def ofToml? (document : Entries Toml) : Option Settings := do
  let part (name : String) (names : List String) : Option (Entries Toml) :=
    match Entries.get? document name with
    | none => some []
    | some toml => fields? names toml
  let about ← part "_meta" ["schema_version", "created_at", "last_modified"]
  let index ← part "index" ["default_type"]
  let query ← part "query" ["default_direction", "merge_source"]
  let some version ← text? about "schema_version" | none
  let createdAt ← text? about "created_at"
  let lastModified ← text? about "last_modified"
  let docType ← text? index "default_type"
  let direction ← text? query "default_direction"
  let mergeSource ← bool? query "merge_source"
  let standard : Settings := {}
  return {
    schemaVersion := version
    createdAt := createdAt
    lastModified := lastModified
    docType := docType.getD standard.docType
    direction := direction.getD standard.direction
    mergeSource := mergeSource.getD standard.mergeSource }

def parse (text : String) : Except Error Settings :=
  match (Toml.parse? text).bind ofToml? with
  | some settings => .ok settings
  | none => .error .malformed

def validate (settings : Settings) : Except Error Unit :=
  if settings.problems.isEmpty then .ok () else .error (.invalid settings.problems)

/-- What is found under a path. -/
inductive Found where
  | nothing
  | directory
  | bytes
  | text (text : String)

/-- What is found where no file stands. -/
def lookUp (path : String) : Found := if Path.isDirectory path then .directory else .nothing

/-- The settings in a file, overridden by the environment and then checked. -/
def load (path : String) (found : Found) (environment : List (String × String)) :
    Logged OverrideNote (Except Error Settings) :=
  match found with
  | .nothing => pure (.error (.notFound path))
  | .directory => pure (.error (.unreadable path .isDirectory))
  | .bytes => pure (.error (.unreadable path .notText))
  | .text text =>
    match parse text with
    | .error error => pure (.error error)
    | .ok settings => do
      let settings ← settings.override environment
      return (settings.validate).map fun _ => settings

/-! ### Writing -/

def textLine (name value : String) : String := name ++ " = " ++ Toml.quoted value ++ "\n"

def timeLine (name : String) (time : Option String) : String :=
  match time with
  | some time => textLine name time
  | none => ""

def toText (settings : Settings) : String :=
  "[_meta]\n" ++ textLine "schema_version" settings.schemaVersion ++
    timeLine "created_at" settings.createdAt ++ timeLine "last_modified" settings.lastModified ++
    "\n[index]\n" ++ textLine "default_type" settings.docType ++
    "\n[query]\n" ++ textLine "default_direction" settings.direction ++
    "merge_source = " ++ (if settings.mergeSource then "true" else "false") ++ "\n"

/-- The text written under a path. -/
def save (settings : Settings) (path : String) : Except Error String :=
  match Path.fault? path with
  | some fault => .error (.unwritable path fault)
  | none => .ok settings.toText

/-! ### The default path -/

/-- The settings file of a user, in the directory for settings if that is given as an absolute
path. -/
def defaultPath (home : String) (directory : Option String) : String :=
  let base :=
    match directory with
    | some directory => if Path.isAbsolute directory then directory else Path.join home ".config"
    | none => Path.join home ".config"
  Path.join (Path.join base "esbuilder") "config.toml"

end SearchQuery.Settings

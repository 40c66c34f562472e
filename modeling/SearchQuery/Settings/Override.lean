import SearchQuery.Settings.Basic

/-! Settings overridden by variables of the environment. A variable whose value cannot be read, or
whose name is that of no setting, changes nothing and is noted. -/
namespace SearchQuery

/-- The settings that variables can set. -/
inductive Setting where
  | docType
  | direction
  | mergeSource
  deriving DecidableEq, Repr

namespace Setting

def path : Setting → String
  | .docType => "INDEX__DEFAULT_TYPE"
  | .direction => "QUERY__DEFAULT_DIRECTION"
  | .mergeSource => "QUERY__MERGE_SOURCE"

def ofPath? (path : String) : Option Setting :=
  [docType, direction, mergeSource].find? (·.path == path)

/-- What a value is read as. -/
def kind : Setting → String
  | .docType => "text"
  | .direction => "sort direction"
  | .mergeSource => "boolean"

end Setting

/-- What is noted about a variable that changes nothing. -/
inductive OverrideNote where
  | unreadable (key : String) (setting : Setting) (value : String)
  | unknown (path : String)
  deriving DecidableEq, Repr

namespace OverrideNote

def level : OverrideNote → Level
  | .unreadable .. => .warn
  | .unknown _ => .debug

def text : OverrideNote → String
  | .unreadable key setting value =>
    "Failed to apply env override " ++ key ++ ": Invalid configuration value at " ++
      setting.path ++ ": Cannot parse '" ++ value ++ "' as " ++ setting.kind
  | .unknown path => "Unknown env config key: " ++ path

end OverrideNote

namespace Settings

/-- Directions are kept by their name, and a boolean is one of two words. -/
def set? (settings : Settings) (setting : Setting) (value : String) : Option Settings :=
  match setting with
  | .docType => some { settings with docType := value }
  | .direction =>
    (Direction.parse? value).map fun direction => { settings with direction := direction.name }
  | .mergeSource =>
    if value = "true" then some { settings with mergeSource := true }
    else if value = "false" then some { settings with mergeSource := false }
    else none

/-- What the names of the variables that count begin with. -/
def overrideStart : String := "ESBUILDER_"

/-- The rest of the name of a variable that counts. -/
def overridePath? (key : String) : Option String :=
  if overrideStart.toList.isPrefixOf key.toList then
    some (String.ofList (key.toList.drop overrideStart.length))
  else none

def overrideOne (settings : Settings) (key value : String) : Logged OverrideNote Settings :=
  match overridePath? key with
  | none => pure settings
  | some path =>
    match Setting.ofPath? path with
    | none => do
      Logged.note (.unknown path)
      return settings
    | some setting =>
      match settings.set? setting value with
      | some settings => pure settings
      | none => do
        Logged.note (.unreadable key setting value)
        return settings

/-- The variables one after the other, so that the last value that can be read stands. -/
def override (settings : Settings) : List (String × String) → Logged OverrideNote Settings
  | [] => pure settings
  | (key, value) :: rest => do
    let settings ← settings.overrideOne key value
    settings.override rest

end Settings

end SearchQuery

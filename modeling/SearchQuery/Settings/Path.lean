/-! Paths of settings files, in a place where no file stands. The only directories are those that a
path of dots and slashes leads to, so each path that names something else leads nowhere. -/
namespace SearchQuery.Settings

/-- Why a file cannot be read or written. -/
inductive Fault where
  | noEntry
  | isDirectory
  | nameTooLong
  | nulInName
  | notText
  deriving DecidableEq, Repr

def Fault.text : Fault → String
  | .noEntry => "No such file or directory (os error 2)"
  | .isDirectory => "Is a directory (os error 21)"
  | .nameTooLong => "File name too long (os error 36)"
  | .nulInName => "file name contained an unexpected NUL byte"
  | .notText => "stream did not contain valid UTF-8"

namespace Path

/-- The most bytes that a path may have. -/
def sizeLimit : Nat := 4095

/-- The most bytes that a name within a path may have. -/
def nameLimit : Nat := 255

def isAbsolute (path : String) : Bool := path.toList.head? = some '/'

def endsInSlash (path : String) : Bool := path.toList.getLast? = some '/'

/-- A path below another, with one slash between. -/
def join (path name : String) : String :=
  if path.isEmpty || endsInSlash path then path ++ name else path ++ "/" ++ name

/-- What stands between slashes, which count as one where they follow each other. -/
def parts (path : String) : List String := (path.splitOn "/").filter fun part => !part.isEmpty

/-- Whether a part stays in a directory or leads up from it. -/
def isDots (part : String) : Bool := part == "." || part == ".."

/-- What makes a path no path at all. -/
def malformed? (path : String) : Option Fault :=
  if path.toList.contains '\x00' then some .nulInName
  else if path.isEmpty then some .noEntry
  else if sizeLimit < path.utf8ByteSize then some .nameTooLong
  else none

def isDirectory (path : String) : Bool := (malformed? path).isNone && (parts path).all isDots

/-- What is wrong with a name to be written, or with a first step on the way to one. -/
def nameFault? (path name : String) (later : List String) : Option Fault :=
  if later.isEmpty && endsInSlash path then some .isDirectory
  else if nameLimit < name.utf8ByteSize then some .nameTooLong
  else if later.isEmpty then none
  else some .noEntry

/-- Why a file cannot be written under a path. With no fault, the path adds one name to a directory
that is there. -/
def fault? (path : String) : Option Fault :=
  match malformed? path with
  | some fault => some fault
  | none =>
    match (parts path).dropWhile isDots with
    | [] => some .isDirectory
    | name :: later => nameFault? path name later

end Path

end SearchQuery.Settings

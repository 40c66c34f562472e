import SearchQuery.Entries
import SearchQuery.Toml.Scalar

/-! TOML documents. A document is read as a list of sections, each a header with the lines under it,
and the sections are then entered one by one into the table that they describe. A table is defined
once: a header may name a table that other headers only passed through, and dotted keys may extend
tables that dotted keys made. -/
namespace SearchQuery.Toml

open Scan
open Scalar (blanks newline comment gap basicString literalString scalar)

/-! ### Tables under construction -/

/-- How a table came to be: by its own header, on the way to another one, or by dotted keys. -/
inductive Origin where
  | header
  | passed
  | dotted
  deriving DecidableEq, Repr

/-- An array of tables has its newest table first. -/
inductive Node where
  | value (value : Toml)
  | table (origin : Origin) (members : List (String × Node))
  | tables (newestFirst : List (List (String × Node)))

abbrev Members := List (String × Node)

mutual

def Node.toToml : Node → Toml
  | .value value => value
  | .table _ members => .table (membersToToml members)
  | .tables list => .arr (tablesToToml list [])

def membersToToml : List (String × Node) → List (String × Toml)
  | [] => []
  | (key, node) :: rest => (key, node.toToml) :: membersToToml rest

def tablesToToml : List (List (String × Node)) → List Toml → List Toml
  | [], acc => acc
  | members :: rest, acc => tablesToToml rest (.table (membersToToml members) :: acc)

end

/-- Changes the table at the end of a path. Tables that are missing on the way are made, and of an
array of tables the newest one is meant. Dotted keys do not enter tables that have a header. -/
def update (dotted : Bool) (change : Origin → Members → Option (Origin × Members)) :
    List String → Origin → Members → Option (Origin × Members)
  | [], origin, members => change origin members
  | key :: path, origin, members => do
    let node : Node ←
      match Entries.get? members key with
      | none =>
        (update dotted change path (if dotted then .dotted else .passed) []).map
          fun (made, inner) => .table made inner
      | some (.value _) | some (.tables []) => none
      | some (.tables (newest :: older)) =>
        (update dotted change path .header newest).map fun (_, inner) => .tables (inner :: older)
      | some (.table made inner) =>
        if dotted && made == .header then none
        else (update dotted change path made inner).map fun (made, inner) => .table made inner
    return (origin, Entries.insert key node members)

/-- A key and its value in a table. The last of several keys must go into a table made by dotted
keys, and no key is there already. -/
def enter (path : List String) (value : Toml) (origin : Origin) (members : Members) :
    Option (Origin × Members) :=
  match path.getLast? with
  | none => none
  | some key =>
    let change (made : Origin) (inner : Members) : Option (Origin × Members) :=
      if (made == .dotted) != path.dropLast.isEmpty && (Entries.get? inner key).isNone then
        some (made, Entries.insert key (.value value) inner)
      else none
    update true change path.dropLast origin members

def enterAll (lines : List (List String × Toml)) (origin : Origin) (members : Members) :
    Option (Origin × Members) :=
  lines.foldlM (fun (origin, members) (path, value) => enter path value origin members)
    (origin, members)

/-! ### Keys and values -/

def isKeyChar (c : Char) : Bool :=
  c.isAlphanum || c == '-' || c == '_'

def simpleKey : Scan String := do
  match ← peek? with
  | some '"' => basicString
  | some '\'' => literalString
  | _ => return String.ofList (← run1 isKeyChar)

/-- The greatest depth of keys and of values within values, plus one. -/
def depthLimit : Nat := 80

def key : Scan (List String) := do
  let part : Scan String := do
    blanks
    let name ← simpleKey
    blanks
    return name
  let path ← sepBy1 part (char '.')
  if path.length < depthLimit then return path else failure

/-- A value within fewer than `depth` others. -/
def value : Nat → List Char → Option (Toml × List Char)
  | 0, _ => none
  | depth + 1, cs =>
    let item : Scan Toml := do
      gap
      let item ← value depth
      gap
      return item
    let member : Scan (List String × Toml) := do
      let path ← key
      char '='
      blanks
      let value ← value depth
      blanks
      return (path, value)
    let reader : Scan Toml := do
      match ← peek? with
      | some '[' =>
        if depth = 0 then failure
        char '['
        let items ← sepBy item (char ',')
        if !items.isEmpty then discard (option (char ','))
        gap
        char ']'
        return .arr items
      | some '\x7b' =>
        if depth = 0 then failure
        char '\x7b'
        let lines ← sepBy member (char ',')
        blanks
        char '\x7d'
        let (_, members) ← StateT.lift (enterAll lines .header [])
        return .table (membersToToml members)
      | _ => scalar
    reader cs

/-! ### Documents -/

inductive Header where
  | table (path : List String)
  | tables (path : List String)

inductive Line where
  | blank
  | header (header : Header)
  | pair (path : List String) (value : Toml)

def header : Scan Header := do
  char '['
  if ← found "[" then
    let path ← key
    text "]]"
    return .tables path
  else
    let path ← key
    char ']'
    return .table path

def pair : Scan Line := do
  let path ← key
  char '='
  blanks
  return .pair path (← value depthLimit)

/-- What stands on a line, up to its end. -/
def line : Scan Line := do
  blanks
  let content ←
    match ← peek? with
    | none | some '#' | some '\n' | some '\r' => pure .blank
    | some '[' => .header <$> header
    | _ => pair
  blanks
  discard (option comment)
  return content

/-- Opens the table of a header. -/
def open? (isArray : Bool) (key : String) (origin : Origin) (members : Members) :
    Option (Origin × Members) := do
  let node : Node ←
    match isArray, Entries.get? members key with
    | true, none => some (.tables [[]])
    | true, some (.tables list) => some (.tables ([] :: list))
    | false, none => some (.table .header [])
    | false, some (.table .passed inner) => some (.table .header inner)
    | _, _ => none
  return (origin, Entries.insert key node members)

/-- A document as far as it is read: its table, and the path of the header in force. -/
structure Document where
  current : List String
  members : Members

def Document.add? (document : Document) : Line → Option Document
  | .blank => some document
  | .header (.table path) => openAt false path
  | .header (.tables path) => openAt true path
  | .pair path value => do
    let (_, members) ←
      update false (enter path value) document.current .header document.members
    return { document with members := members }
where
  openAt (isArray : Bool) (path : List String) : Option Document := do
    let name ← path.getLast?
    let (_, members) ←
      update false (open? isArray name) path.dropLast .header document.members
    return ⟨path, members⟩

/-- The table that a whole text describes. A byte order mark before it does not count. -/
def parse? (s : String) : Option (Entries Toml) := do
  let lines ← Scan.all? (do discard (option (char '\ufeff')); sepBy1 line newline) s
  let document ← lines.foldlM Document.add? ⟨[], []⟩
  return membersToToml document.members

end SearchQuery.Toml

/-!
**TOML values.**

* `Value`: a value. Integers have 64 bits with a sign; numbers with a fraction and points in time are kept
  as they are written;
* `Node`: a value, table or list of tables while a text is read. A table remembers how it came to
  be, since that decides what may be added to it;
* `edit`, `define`, `openTable`, `openArray`: what the lines of a text add;
* `Node.toValue`: the value that comes of it.
-/

namespace ServiceLocation.Toml

/-- A TOML value. -/
inductive Value where
  | string (text : String)
  | integer (value : Int64)
  | float (text : List Char)
  | boolean (value : Bool)
  | dateTime (text : List Char)
  | array (items : List Value)
  | table (entries : List (String × Value))

/-- How a table came to be. -/
inductive Origin where
  /-- By a header or braces of its own. -/
  | header
  /-- By the header of a table within it. -/
  | implied
  /-- By a key with several parts. -/
  | dotted
  deriving Repr, DecidableEq

/-- What stands under a key while a text is read. -/
inductive Node where
  | value (value : Value)
  | table (origin : Origin) (entries : List (String × Node))
  | tables (items : List (List (String × Node)))

/-- What stands under the keys of a table. -/
abbrev Entries := List (String × Node)

namespace Entries

/-- The entries with another node under a key they have. -/
def replace (entries : Entries) (key : String) (node : Node) : Entries :=
  entries.map fun entry => if entry.1 == key then (key, node) else entry

end Entries

/--
The entries of a table, changed where a path leads from it. Tables on the way are added if they are
missing. The last of several tables is the one that is meant. A path of a key with several parts may
not lead into a table that has a header.
-/
def edit (isKey : Bool) (change : Origin → Entries → Option Entries) (origin : Origin)
    (path : List String) (entries : Entries) : Option Entries :=
  match path with
  | [] => change origin entries
  | key :: rest =>
    match entries.lookup key with
    | none => do
      let origin : Origin := if isKey then .dotted else .implied
      some (entries ++ [(key, .table origin (← edit isKey change origin rest []))])
    | some (.value _) => none
    | some (.tables items) => do
      let last ← edit isKey change .header rest (← items.getLast?)
      some (entries.replace key (.tables (items.dropLast ++ [last])))
    | some (.table origin inner) =>
      if isKey && origin == .header then none
      else do
        some (entries.replace key (.table origin (← edit isKey change origin rest inner)))

/--
The entries with a value under a key of which `path` are the parts before the last. The last table
on the path has to come from such keys, and the key must be new.
-/
def define (path : List String) (key : String) (value : Value) (origin : Origin)
    (entries : Entries) : Option Entries :=
  edit true (fun origin entries =>
    if (origin == .dotted) == path.isEmpty || (entries.lookup key).isSome then none
    else some (entries ++ [(key, .value value)])) origin path entries

/-- The entries with a table under a header. A table that a header implied is the one meant. -/
def openTable (path : List String) (key : String) (entries : Entries) : Option Entries :=
  edit false (fun _ entries =>
    match entries.lookup key with
    | none => some (entries ++ [(key, .table .header [])])
    | some (.table .implied inner) => some (entries.replace key (.table .header inner))
    | some _ => none) .header path entries

/-- The entries with one more table in the list of tables under a header. -/
def openArray (path : List String) (key : String) (entries : Entries) : Option Entries :=
  edit false (fun _ entries =>
    match entries.lookup key with
    | none => some (entries ++ [(key, .tables [[]])])
    | some (.tables items) => some (entries.replace key (.tables (items ++ [[]])))
    | some _ => none) .header path entries

mutual

/-- The value that a node comes to. -/
def Node.toValue : Node → Value
  | .value value => value
  | .table _ entries => .table (entryValues entries)
  | .tables items => .array (tableValues items)

/-- The values of the entries of a table. -/
def entryValues : List (String × Node) → List (String × Value)
  | [] => []
  | (key, node) :: rest => (key, node.toValue) :: entryValues rest

/-- The values of several tables. -/
def tableValues : List (List (String × Node)) → List Value
  | [] => []
  | entries :: rest => .table (entryValues entries) :: tableValues rest

end

end ServiceLocation.Toml

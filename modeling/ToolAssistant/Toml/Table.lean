import ToolAssistant.Json.Basic

/-!
# Tables under construction

A configuration file builds up its tables piece by piece: by headers, by keys with points, and by
inline values.  A table that only came about on the way to another one may still be opened by a
header of its own, but none may be opened twice, and no inline value may be added to later.
-/

namespace ToolAssistant.Toml

/-- How a table came about. -/
inductive Origin where
  /-- By a header of its own. -/
  | header
  /-- On the way of a header to a table below it. -/
  | passedThrough
  /-- By a key with points. -/
  | dottedKey
  deriving DecidableEq, Repr

/-- What stands under a key. -/
inductive Item where
  | value (value : Json)
  | table (origin : Origin) (entries : List (String × Item))
  | tables (tables : List (List (String × Item)))

/-- The keys of a table with what stands under them. -/
abbrev Entries := List (String × Item)

namespace Entries

/-- Puts an item under a key, in place of what stood there. -/
def put (key : String) (item : Item) : Entries → Entries
  | [] => [(key, item)]
  | (k, other) :: rest => if k = key then (k, item) :: rest else (k, other) :: put key item rest

/-- Goes down a path of keys, making tables of the given origin where there are none, and changes
the table that it ends in.  A path goes into the last of a list of tables; a key with points may not
go into a table that has a header. -/
def descend (origin : Origin) (change : Origin → Entries → Option Entries) (here : Origin) :
    List String → Entries → Option Entries
  | [], entries => change here entries
  | key :: path, entries =>
    match entries.lookup key with
    | none => do
      let below ← descend origin change origin path []
      some (put key (.table origin below) entries)
    | some (.value _) => none
    | some (.table other below) =>
      if origin = .dottedKey ∧ other = .header then none
      else do
        let below ← descend origin change other path below
        some (put key (.table other below) entries)
    | some (.tables tables) =>
      match tables.getLast? with
      | none => none
      | some last => do
        let last ← descend origin change .header path last
        some (put key (.tables (tables.dropLast ++ [last])) entries)

/-- Adds a value under a key with points.  All but the last part of the key have to lead to a table
that came about by such keys alone. -/
def addValue (parts : List String) (value : Json) (entries : Entries) : Option Entries := do
  let key ← parts.getLast?
  let path := parts.dropLast
  let change (here : Origin) (entries : Entries) : Option Entries :=
    if (here == .dottedKey) == path.isEmpty then none
    else if (entries.lookup key).isSome then none
    else some (put key (.value value) entries)
  descend .dottedKey change .header path entries

/-- Adds a value under a key with points to the table of a header. -/
def addBelow (header parts : List String) (value : Json) (entries : Entries) : Option Entries :=
  descend .passedThrough (fun _ below => addValue parts value below) .header header entries

/-- Opens the table of a header. -/
def openTable (header : List String) (entries : Entries) : Option Entries := do
  let key ← header.getLast?
  let change (_ : Origin) (entries : Entries) : Option Entries :=
    match entries.lookup key with
    | none => some (put key (.table .header []) entries)
    | some (.table .passedThrough below) => some (put key (.table .header below) entries)
    | _ => none
  descend .passedThrough change .header header.dropLast entries

/-- Opens one more table in the list of a header. -/
def openListed (header : List String) (entries : Entries) : Option Entries := do
  let key ← header.getLast?
  let change (_ : Origin) (entries : Entries) : Option Entries :=
    match entries.lookup key with
    | none => some (put key (.tables [[]]) entries)
    | some (.tables tables) => some (put key (.tables (tables ++ [[]])) entries)
    | _ => none
  descend .passedThrough change .header header.dropLast entries

end Entries

mutual

/-- An item as data. -/
def Item.toJson : Item → Json
  | .value value => value
  | .table _ entries => .ofFields (entriesToFields entries)
  | .tables tables => .array (tablesToJson tables)

/-- Entries as fields. -/
def entriesToFields : List (String × Item) → List (String × Json)
  | [] => []
  | (key, item) :: rest => (key, item.toJson) :: entriesToFields rest

/-- Tables as data. -/
def tablesToJson : List (List (String × Item)) → List Json
  | [] => []
  | entries :: rest => .ofFields (entriesToFields entries) :: tablesToJson rest

end

/-- A table as data. -/
def Entries.toJson (entries : Entries) : Json :=
  .ofFields (entriesToFields entries)

end ToolAssistant.Toml

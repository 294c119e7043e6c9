import EventScript.Toml.Value

/-!
# Growing tables

While a text is read, its tables grow statement by statement. What may still be added to a table
depends on how it came about: a table with a header of its own is complete under dotted keys, one
that dotted keys made never takes a header, and one that only longer headers have passed through may
take its header later. A table or array that is written as a value is closed.
-/
namespace EventScript.Toml

/-- How a table came about. -/
inductive Origin where
  /-- Under a header that names the table. -/
  | header
  /-- On the way of a header that names a table inside it. -/
  | passage
  /-- On the way of a dotted key. -/
  | dotted
deriving DecidableEq, Repr

/-- What a key of a growing table holds. -/
inductive Item where
  | value (value : Value)
  | table (origin : Origin) (entries : List (String × Item))
  /-- The elements of an array of tables, each under a header of its own. -/
  | tables (elements : List (List (String × Item)))
deriving Inhabited

/-- A growing table. Its keys are distinct. -/
abbrev Entries := List (String × Item)

/-- A key, as the tables that it leads through and the name in the last of them. -/
structure Key where
  path : List String
  last : String
deriving DecidableEq, Repr

/-- A statement of a text. -/
inductive Statement where
  | assign (key : Key) (value : Value)
  | header (key : Key)
  /-- The header of one more element of an array of tables. -/
  | element (key : Key)

namespace Entries

/-- Replaces what one key holds, or gives a new key something to hold. -/
def alter (change : Option Item → Option Item) (key : String) : Entries → Option Entries
  | [] => do return [(key, ← change none)]
  | (name, item) :: rest => do
    if name = key then return (name, ← change (some item)) :: rest
    else return (name, item) :: (← alter change key rest)

/-- Changes the last element of an array of tables. -/
def alterLast (change : Entries → Option Entries) : List Entries → Option (List Entries)
  | [] => none
  | [element] => do return [← change element]
  | element :: rest => do return element :: (← alterLast change rest)

/-- Gives a value to a key, which must be new. A dotted key adds only to tables that dotted keys
have made, although on its way it may lead through a table without header or through the newest
element of an array of tables. -/
def assign (value : Value) (last : String) : List String → Entries → Option Entries
  | [], entries =>
    entries.alter (fun
      | none => some (.value value)
      | some _ => none) last
  | key :: path, entries =>
    entries.alter (fun
      | none => do return .table .dotted (← assign value last path [])
      | some (.table origin inner) =>
        if origin = .header || (path.isEmpty && origin ≠ .dotted) then none
        else do return .table origin (← assign value last path inner)
      | some (.tables elements) =>
        if path.isEmpty then none
        else do return .tables (← alterLast (assign value last path) elements)
      | some (.value _) => none) key

/-- Changes the table that a header leads to. Tables that are missing on the way are made, and of an
array of tables the newest element is meant. -/
def under (change : Entries → Option Entries) : List String → Entries → Option Entries
  | [], entries => change entries
  | key :: path, entries =>
    entries.alter (fun
      | none => do return .table .passage (← under change path [])
      | some (.table origin inner) => do return .table origin (← under change path inner)
      | some (.tables elements) => do return .tables (← alterLast (under change path) elements)
      | some (.value _) => none) key

/-- A header begins a table, which is new or has only been passed through. -/
def openTable (key : Key) : Entries → Option Entries :=
  under (alter (fun
    | none => some (.table .header [])
    | some (.table .passage inner) => some (.table .header inner)
    | some _ => none) key.last) key.path

/-- A header begins one more element of an array of tables, which may be the first. -/
def openElement (key : Key) : Entries → Option Entries :=
  under (alter (fun
    | none => some (.tables [[]])
    | some (.tables elements) => some (.tables (elements ++ [[]]))
    | some _ => none) key.last) key.path

end Entries

mutual

/-- The value that an item has grown into. -/
def Item.toValue : Item → Value
  | .value value => value
  | .table _ entries => .table (entriesToValues entries)
  | .tables elements => .array (elementsToValues elements)

/-- The entries that a table has grown into. -/
def entriesToValues : List (String × Item) → List (String × Value)
  | [] => []
  | (key, item) :: rest => (key, item.toValue) :: entriesToValues rest

/-- The elements that an array of tables has grown into. -/
def elementsToValues : List (List (String × Item)) → List Value
  | [] => []
  | entries :: rest => .table (entriesToValues entries) :: elementsToValues rest

end

/-- The table that assignments alone make. -/
def tableOfAssignments? (assignments : List (Key × Value)) : Option Entries :=
  assignments.foldlM (fun entries (key, value) => entries.assign value key.last key.path) []

/-- The table that the statements of a text make. Assignments go to the table under the header
before them, and before any header to the table of the whole text. -/
def tableOfStatements? (current : List String) (entries : Entries) :
    List Statement → Option Entries
  | [] => some entries
  | .assign key value :: rest => do
    let grown ← entries.under (Entries.assign value key.last key.path) current
    tableOfStatements? current grown rest
  | .header key :: rest => do
    tableOfStatements? (key.path ++ [key.last]) (← entries.openTable key) rest
  | .element key :: rest => do
    tableOfStatements? (key.path ++ [key.last]) (← entries.openElement key) rest

end EventScript.Toml

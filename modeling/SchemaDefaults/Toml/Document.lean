import SchemaDefaults.Toml.Value

/-! # Documents as nested tables

A document is a sequence of statements: headers, which say to which table what follows
belongs, and entries. Here they are put together into one table. A table may be opened by
a header only once, a dotted key may add only to tables that dotted keys have made, and
nothing may be added to a value that is written out in full.
-/

namespace SchemaDefaults.Toml

/-- How a table came about. -/
inductive Origin where
  /-- By a header of its own. -/
  | header
  /-- By a header of a table inside it. -/
  | implied
  /-- By a dotted key. -/
  | dotted
  deriving Repr, DecidableEq

/-- A part of a document that is being put together. -/
inductive Node where
  /-- A value written out in full. -/
  | closed (value : Value)
  | table (origin : Origin) (entries : List (String × Node))
  /-- An array of tables, the last one first. -/
  | tables (entries : List (String × Node)) (earlier : List Node)

/-- One statement of a document. -/
inductive Statement where
  | entry (path : List String) (value : Value)
  /-- The header of a table. -/
  | table (path : List String)
  /-- The header of one table of an array. -/
  | element (path : List String)

namespace Node

/-- The entries of a table in the making. -/
abbrev Entries := List (String × Node)

/-- Adds a value under a dotted key. `origin` tells how the table came about to which the
    entries belong. -/
def addEntry (value : Value) (isDotted : Bool) (origin : Origin) :
    List String → Entries → Option Entries
  | [], _ => none
  | [key], entries =>
      -- The last part of a dotted key goes into a table that dotted keys made, any other key
      -- into one that they did not make.
      if isDotted != (origin == .dotted) then none
      else
        match Keyed.find? key entries with
        | none => some (Keyed.insert key (.closed value) entries)
        | some _ => none
  | key :: path, entries =>
      match Keyed.find? key entries with
      | none => do
          let inner ← addEntry value true .dotted path []
          some (Keyed.insert key (.table .dotted inner) entries)
      | some (.closed _) => none
      | some (.table .header _) => none
      | some (.table origin inner) => do
          let inner ← addEntry value true origin path inner
          some (Keyed.insert key (.table origin inner) entries)
      | some (.tables inner earlier) => do
          let inner ← addEntry value true .header path inner
          some (Keyed.insert key (.tables inner earlier) entries)

/-- Changes the entries of the table that a header names; tables on the way are made if they
    are not there. -/
def changeAt (change : Origin → Entries → Option Entries) :
    List String → Origin → Entries → Option Entries
  | [], origin, entries => change origin entries
  | key :: path, _, entries =>
      match Keyed.find? key entries with
      | none => do
          let inner ← changeAt change path .implied []
          some (Keyed.insert key (.table .implied inner) entries)
      | some (.closed _) => none
      | some (.table origin inner) => do
          let inner ← changeAt change path origin inner
          some (Keyed.insert key (.table origin inner) entries)
      -- A header leads into the table that was begun last.
      | some (.tables inner earlier) => do
          let inner ← changeAt change path .header inner
          some (Keyed.insert key (.tables inner earlier) entries)

/-- Opens a table by its header. -/
def openTable (key : String) (entries : Entries) : Option Entries :=
  match Keyed.find? key entries with
  | none => some (Keyed.insert key (.table .header []) entries)
  | some (.table .implied inner) => some (Keyed.insert key (.table .header inner) entries)
  | some _ => none

/-- Opens the next table of an array by its header. -/
def openElement (key : String) (entries : Entries) : Option Entries :=
  match Keyed.find? key entries with
  | none => some (Keyed.insert key (.tables [] []) entries)
  | some (.tables last earlier) =>
      some (Keyed.insert key (.tables [] (.table .header last :: earlier)) entries)
  | some _ => none

/-- Carries out a statement below the header that was met last. -/
def state (current : List String) (entries : Entries) :
    Statement → Option (List String × Entries)
  | .entry path value => do
      let isDotted := 1 < path.length
      let entries ← changeAt (addEntry value isDotted · path) current .header entries
      some (current, entries)
  | .table path => do
      let key ← path.getLast?
      let entries ← changeAt (fun _ => openTable key) path.dropLast .header entries
      some (path, entries)
  | .element path => do
      let key ← path.getLast?
      let entries ← changeAt (fun _ => openElement key) path.dropLast .header entries
      some (path, entries)

/-- Carries out statements one after the other. -/
def stateAll (current : List String) (entries : Entries) : List Statement → Option Entries
  | [] => some entries
  | statement :: rest => do
      let (current, entries) ← state current entries statement
      stateAll current entries rest

mutual

/-- The value of a finished part. -/
def toValue : Node → Value
  | .closed value => value
  | .table _ entries => .table (toEntries entries)
  | .tables last earlier => .array (toItems earlier [.table (toEntries last)])

/-- The values of finished entries. -/
def toEntries : List (String × Node) → List (String × Value)
  | [] => []
  | (key, node) :: rest => (key, node.toValue) :: toEntries rest

/-- The values of the earlier tables of an array, which are kept last one first, in front of
    other values. -/
def toItems : List Node → List Value → List Value
  | [], items => items
  | node :: rest, items => toItems rest (node.toValue :: items)

end

end Node

def document? (statements : List Statement) : Option (List (String × Value)) :=
  (Node.stateAll [] [] statements).map Node.toEntries

/-- The table that is written out in full with the given entries. -/
def inlineTable? (entries : List (List String × Value)) : Option Value :=
  (document? (entries.map fun (path, value) => .entry path value)).map .table

end SchemaDefaults.Toml

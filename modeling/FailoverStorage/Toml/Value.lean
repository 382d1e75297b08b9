/-!
# TOML values

A TOML document is a table of values.  Of numbers and dates only the fact that they stand there
matters, because no setting of a configuration takes one.  A table remembers how it came about:
that decides what may still be added to it, and equal content does not make up for it.

* `assign` binds a dotted key, `openTable` and `appendElement` add the section below a header.
* Each fails where TOML forbids to define a thing twice or to extend what is closed.
-/

namespace FailoverStorage.Toml

/-- How a table came about. -/
inductive Origin where
  /-- Its own header names it. -/
  | header
  /-- The header of a table below it implies it. -/
  | implied
  /-- A dotted key implies it. -/
  | dotted
  /-- It is written between braces. -/
  | inline
  deriving DecidableEq

/-- **A value of a document.** -/
inductive Value where
  | text (s : String)
  | boolean (b : Bool)
  /-- An integer or a float. -/
  | number
  /-- A date, a time or both. -/
  | dateTime
  /-- Values between brackets. -/
  | array (items : List Value)
  | table (origin : Origin) (entries : List (String × Value))
  /-- Tables below headers with double brackets. -/
  | elements (tables : List (List (String × Value)))

/-- The entries of a table, in the order in which they were defined. -/
abbrev Entries := List (String × Value)

/-! ## Entries -/

/-- Changes what a key is bound to where it stands, or binds it after all others. -/
def alter (key : String) (f : Option Value → Option Value) : Entries → Option Entries
  | [] => (f none).map fun v => [(key, v)]
  | (k, v) :: rest =>
    if k = key then (f (some v)).map fun v => (k, v) :: rest
    else (alter key f rest).map ((k, v) :: ·)

/-- Binds a key that is not bound yet. -/
def bindNew (key : String) (v : Value) (entries : Entries) : Option Entries :=
  if entries.any (·.1 = key) then none else some (entries ++ [(key, v)])

/-- Changes the last table of a list of tables. -/
def alterLast (f : Entries → Option Entries) : List Entries → Option (List Entries)
  | [] => none
  | [last] => (f last).map ([·])
  | first :: rest => (alterLast f rest).map (first :: ·)

/-! ## Tables below tables -/

/-- Changes the table that a path leads to, making the tables on the way that do not exist.  A path
of headers leads through every table that is not inline; a dotted key only through tables without
a header of their own.  Both lead through a list of tables to its last one. -/
def within (dotted : Bool) : (path : List String) → (f : Origin → Entries → Option Entries) →
    Origin → Entries → Option Entries
  | [], f, origin, entries => f origin entries
  | key :: path, f, _, entries =>
    alter key (fun
      | none =>
        let origin : Origin := if dotted then .dotted else .implied
        (within dotted path f origin []).map (.table origin ·)
      | some (.table origin sub) =>
        if origin = .inline ∨ (dotted ∧ origin = .header) then none
        else (within dotted path f origin sub).map (.table origin ·)
      | some (.elements tables) =>
        (alterLast (within dotted path f .header) tables).map (.elements ·)
      | some _ => none) entries

/-- A key of one or more parts and the value assigned to it. -/
structure Assignment where
  /-- All parts but the last. -/
  path : List String
  /-- The last part. -/
  key : String
  value : Value

/-- Binds a dotted key within a table.  A key of several parts ends in a table that dotted keys
made, a key of one part in the table itself. -/
def assign (entries : Entries) (a : Assignment) : Option Entries :=
  within true a.path (fun origin entries =>
    if a.path.isEmpty ∨ origin = .dotted then bindNew a.key a.value entries else none)
    .header entries

/-- Binds dotted keys one after another. -/
def assignAll (entries : Entries) : List Assignment → Option Entries
  | [] => some entries
  | a :: rest => (assign entries a).bind fun entries => assignAll entries rest

/-! ## Sections -/

/-- Adds the section below a header.  The table may have been implied before; then it keeps its
tables and moves behind the others. -/
def openTable (root : Entries) (path : List String) (key : String)
    (assignments : List Assignment) : Option Entries :=
  within false path (fun _ entries => do
    let before ← match entries.lookup key with
      | none => some []
      | some (.table .implied sub) => some sub
      | some _ => none
    let after ← assignAll before assignments
    return entries.filter (·.1 ≠ key) ++ [(key, .table .header after)])
    .header root

/-- Adds the section below a header with double brackets as the last table of its list. -/
def appendElement (root : Entries) (path : List String) (key : String)
    (assignments : List Assignment) : Option Entries :=
  within false path (fun _ entries =>
    alter key (fun before => do
      let tables ← match before with
        | none => some []
        | some (.elements tables) => some tables
        | some _ => none
      let element ← assignAll [] assignments
      return .elements (tables ++ [element])) entries)
    .header root

end FailoverStorage.Toml

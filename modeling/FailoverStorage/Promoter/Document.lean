import FailoverStorage.Promoter.Agent.Line
import FailoverStorage.Promoter.Config
import FailoverStorage.Toml.Writer

/-!
# Promoter documents

A promoter configuration is stored as a TOML document with one `promoter` section.  Reading ignores
keys that it does not know.  It goes through the document in order and stops at the first thing
that does not fit; if that is an agent line, its fault is reported.

* `PromoterConfig.toToml` writes, `PromoterConfig.ofToml` reads.
-/

namespace FailoverStorage

open Toml

namespace PromoterConfig

/-! ## Writing -/

/-- The line of a text that may be missing. -/
def optionalLine (key : String) (value : Option String) : List Char :=
  (value.map fun s => assignmentLine key (textValue s)).getD []

/-- The section of one resource. -/
def resourceSection (name : String) (r : PromotedResource) : List Char :=
  "\n[promoter.resources.".toList ++ part name.toList ++ "]\n".toList
    ++ assignmentLine "start" (textsValue (r.start.map Agent.line))
    ++ assignmentLine "stop-services-on-exit" (booleanValue r.stopServicesOnExit)
    ++ optionalLine "on-drbd-demote-failure" r.onDemoteFailure
    ++ optionalLine "target-as" r.targetAs

/-- The sections of resources; a header alone stands for none. -/
def resourceSections : List (String × PromotedResource) → List Char
  | [] => "\n[promoter.resources]\n".toList
  | entries => entries.flatMap fun (name, r) => resourceSection name r

/-- **The document of a configuration.** -/
def toToml (c : PromoterConfig) : String :=
  String.ofList ("[[promoter]]\n".toList ++ assignmentLine "id" (textValue c.id)
    ++ resourceSections c.resources.entries)

/-! ## Reading -/

/-- The error for a document that is none, or does not have the shape of a configuration. -/
def malformed : Error := .document none

/-- A text value. -/
def readText : Value → Except Error String
  | .text s => .ok s
  | _ => .error malformed

/-- A boolean value. -/
def readBoolean : Value → Except Error Bool
  | .boolean b => .ok b
  | _ => .error malformed

/-- An agent line. -/
def readAgent (v : Value) : Except Error Agent := do
  match Agent.ofLine (← readText v) with
  | .ok agent => .ok agent
  | .error e => .error (.document (some e.message))

/-- The items of a list, which may be written as tables below headers. -/
def readItems : Value → Except Error (List Value)
  | .array items => .ok items
  | .elements tables => .ok (tables.map (.table .header))
  | _ => .error malformed

/-- The fields of a record: the entries of a table, or the items of a list in the order of the
fields.  A date counts as a record with none of them. -/
def readFields (order : List String) : Value → Except Error Entries
  | .table _ entries => .ok entries
  | .dateTime => .ok []
  | v => (readItems v).map order.zip

/-- Sets one field of a resource. -/
def setResourceField (r : PromotedResource) (key : String) (v : Value) :
    Except Error PromotedResource :=
  if key = "start" then do
    return { r with start := ← (← readItems v).mapM readAgent }
  else if key = "stop-services-on-exit" then do
    return { r with stopServicesOnExit := ← readBoolean v }
  else if key = "on-drbd-demote-failure" then do
    return { r with onDemoteFailure := some (← readText v) }
  else if key = "target-as" then do
    return { r with targetAs := some (← readText v) }
  else .ok r

/-- A resource; every field may be missing. -/
def readResource (v : Value) : Except Error PromotedResource := do
  let order := ["start", "stop-services-on-exit", "on-drbd-demote-failure", "target-as"]
  (← readFields order v).foldlM (fun r (key, v) => setResourceField r key v) {}

/-- The resources by their names. -/
def readResources : Value → Except Error (SortedMap String PromotedResource)
  | .table _ entries =>
    entries.foldlM (fun m (name, v) => do return m.insert name (← readResource v)) .empty
  | _ => .error malformed

/-- Sets one field of a configuration whose id may not be known yet. -/
def setField (c : Option String × SortedMap String PromotedResource) (key : String) (v : Value) :
    Except Error (Option String × SortedMap String PromotedResource) :=
  if key = "id" then do return (some (← readText v), c.2)
  else if key = "resources" then do return (c.1, ← readResources v)
  else .ok c

/-- A configuration; the id must be there. -/
def ofValue (v : Value) : Except Error PromoterConfig := do
  let fields ← readFields ["id", "resources"] v
  match ← fields.foldlM (fun c (key, v) => setField c key v) (none, .empty) with
  | (some id, resources) => .ok { id, resources }
  | (none, _) => .error malformed

/-- The configurations of a document. -/
def readDocument (entries : Entries) : Except Error (List PromoterConfig) :=
  match entries.lookup "promoter" with
  | none => .ok []
  | some v => do (← readItems v).mapM ofValue

/-- **Reads the document of a configuration.** -/
def ofToml (text : String) : Except Error PromoterConfig :=
  match Toml.read text.toList with
  | none => .error malformed
  | some entries => do
    match ← readDocument entries with
    | [c] => .ok c
    | _ => .error (.promoter "expected exactly one [[promoter]] section")

end PromoterConfig

end FailoverStorage

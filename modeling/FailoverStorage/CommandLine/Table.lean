import FailoverStorage.Endpoint.Basic
import FailoverStorage.Text.Blank
import FailoverStorage.Volume.Size

/-!
# Tables of endpoints

A list of endpoints is shown to people as a table with one row for each volume.  A column is as wide
as the longest of its cells, counted in bytes, and no line ends in a blank.
-/

namespace FailoverStorage.CommandLine

open Text

/-! ## Layout -/

/-- The text that is wide enough for a column, filled up with spaces. -/
def padded (width : Nat) (cell : String) : String :=
  cell ++ String.ofList (List.replicate (width - cell.length) ' ')

/-- The widths of the columns of some rows. -/
def columnWidths (columns : Nat) (rows : List (List String)) : List Nat :=
  (List.range columns).map fun i => (rows.map fun row => (row.getD i "").utf8ByteSize).foldl max 0

/-- A row as a line. -/
def tableLine (widths : List Nat) (row : List String) : String :=
  let line := joinWith "  " (List.zipWith padded widths row)
  String.ofList (trimEnd line.toList) ++ "\n"

/-- **Rows as lines**, with aligned columns. -/
def layout (columns : Nat) (rows : List (List String)) : String :=
  joinWith "" (rows.map (tableLine (columnWidths columns rows)))

/-! ## Endpoints -/

variable {p : Protocol}

/-- The titles of the columns. -/
def titles (p : Protocol) : List String :=
  [p.label, "Volume", "Size", "Service", "Primary", "State"]

/-- The row of a volume of an endpoint. -/
def volumeRow (e : Endpoint p) (v : Volume) : List String :=
  let health := (e.status.volumes.find? (·.number = v.number)).map (·.health.name)
  [Protocol.identityText e.identity, decimal v.number.toNat, Size.text v.sizeKib.toNat,
    e.status.service.name, e.status.primary.getD "", health.getD "unknown"]

/-- The rows of an endpoint; the cluster-private volume has none. -/
def endpointRows (e : Endpoint p) : List (List String) :=
  (e.volumes.filter (·.number ≠ Volume.privateNumber)).map (volumeRow e)

/-- **The table of some endpoints.** -/
def table (es : List (Endpoint p)) : String :=
  layout (titles p).length (titles p :: es.flatMap endpointRows)

end FailoverStorage.CommandLine

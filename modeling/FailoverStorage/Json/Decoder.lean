import FailoverStorage.Data.SortedMap
import FailoverStorage.Json.Value

/-!
# Decoding JSON

A decoder turns a JSON value into a value of the domain or tells which kind of fault it met first:
the text is `malformed`, or it says something else than expected, a `mismatch`.  A record is read
member by member in the order of the text.  Unknown members are passed over, repeated ones are a
mismatch, and a record may also be written as an array of its fields in order.
-/

namespace FailoverStorage.Json

/-- Why a value cannot be decoded. -/
inductive Fault where
  /-- The text is not JSON at this place. -/
  | malformed
  /-- The value is not what is expected. -/
  | mismatch
  deriving DecidableEq

/-- What turns a JSON value into a value of `α`. -/
abbrev Decoder (α : Type) : Type := Json → Except Fault α

namespace Decode

variable {α β ρ : Type}

/-! ## Single values -/

/-- The fault of a value that is not of an expected kind.  Such a value is taken in first, unless it
is an array or an object. -/
def unexpected : Json → Fault
  | .broken | .halfPair => .malformed
  | .number literal => if isFinite literal then .mismatch else .malformed
  | _ => .mismatch

/-- A text. -/
def text : Decoder String
  | .text s => .ok s
  | v => .error (unexpected v)

/-- A truth value. -/
def boolean : Decoder Bool
  | .boolean b => .ok b
  | v => .error (unexpected v)

/-- A whole number up to a bound.  It must be written with digits only. -/
def natural (bound : Nat) : Decoder Nat
  | .number literal =>
    match (Text.digits? 10 literal).filter (· ≤ bound) with
    | some n => .ok n
    | none => .error (unexpected (.number literal))
  | v => .error (unexpected v)

/-- A number of 8 bits. -/
def byte : Decoder UInt8 := fun v => (natural (UInt8.size - 1) v).map UInt8.ofNat

/-- A number of 16 bits. -/
def word16 : Decoder UInt16 := fun v => (natural (UInt16.size - 1) v).map UInt16.ofNat

/-- A number of 32 bits. -/
def word32 : Decoder UInt32 := fun v => (natural (UInt32.size - 1) v).map UInt32.ofNat

/-- A number of 64 bits. -/
def word64 : Decoder UInt64 := fun v => (natural (UInt64.size - 1) v).map UInt64.ofNat

/-- A text in a form that a parser knows. -/
def parsed {ε : Type} (parse : String → Except ε α) : Decoder α := fun v => do
  match parse (← text v) with
  | .ok a => .ok a
  | .error _ => .error .mismatch

/-- A value or `null`. -/
def optional (decode : Decoder α) : Decoder (Option α)
  | .null => .ok none
  | v => (decode v).map some

/-- One of several names, or an object with one of them bound to `null`. -/
def choice (names : List (String × α)) : Decoder α
  | .text s => match names.lookup s with
    | some a => .ok a
    | none => .error .mismatch
  | .object [(s, v)] whole => do
    let some a := names.lookup s | .error .mismatch
    match v with
    | .null => if whole then .ok a else .error .malformed
    | v => .error (unexpected v)
  | .object ((s, v) :: _) _ => do
    let some _ := names.lookup s | .error .mismatch
    match v with
    | .null => .error .malformed
    | v => .error (unexpected v)
  | _ => .error .malformed

/-! ## Arrays and maps -/

/-- The items of an array. -/
def list (decode : Decoder α) : Decoder (List α)
  | .array items whole => do
    let items ← items.mapM decode
    if whole then .ok items else .error .malformed
  | v => .error (unexpected v)

/-- The members of an object; of two with one name the later one counts. -/
def map (decode : Decoder α) : Decoder (SortedMap String α)
  | .object members whole => do
    let m ← members.foldlM (fun m (key, v) => do return m.insert key (← decode v))
      (SortedMap.empty : SortedMap String α)
    if whole then .ok m else .error .malformed
  | v => .error (unexpected v)

/-! ## Records -/

/-- A field of a record `ρ` under construction: its name, and how its value is taken in. -/
structure RecordField (ρ : Type) where
  name : String
  set : ρ → Json → Except Fault ρ

/-- The field with a decoder for its value and a function that sets it. -/
def field (name : String) (decode : Decoder α) (set : ρ → α → ρ) : RecordField ρ :=
  { name, set := fun r v => (decode v).map (set r) }

/-- Takes in the members of an object, `seen` being the fields set so far. -/
def takeMembers (fields : List (RecordField ρ)) (seen : List String) (r : ρ) :
    List (String × Json) → Except Fault ρ
  | [] => .ok r
  | (key, v) :: rest =>
    match fields.find? (·.name = key) with
    | none => takeMembers fields seen r rest
    | some f =>
      if key ∈ seen then .error .mismatch
      else do takeMembers fields (key :: seen) (← f.set r v) rest

/-- Takes in the items of an array in the order of the fields. -/
def takeItems (r : ρ) : List (RecordField ρ) → List Json → Except Fault ρ
  | _, [] => .ok r
  | [], _ :: _ => .error .malformed
  | f :: fields, v :: rest => do takeItems (← f.set r v) fields rest

/-- **A record**: its fields are taken in one by one from a start value, and the result is finished
unless a required field is missing. -/
def record (fields : List (RecordField ρ)) (start : ρ) (finish : ρ → Option α) :
    Decoder α := fun v => do
  let (r, whole) ← match v with
    | .object members whole => do pure (← takeMembers fields [] start members, whole)
    | .array items whole => do pure (← takeItems start fields items, whole)
    | v => .error (unexpected v)
  if !whole then .error .malformed
  else match finish r with
    | some a => .ok a
    | none => .error .mismatch

end Decode

end FailoverStorage.Json

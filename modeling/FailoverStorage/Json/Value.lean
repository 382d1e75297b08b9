import FailoverStorage.Text.Binary64
import FailoverStorage.Text.Numeral

/-!
# JSON values

A JSON text is taken apart as far as it is well formed, and what was found up to the first fault is
kept.  Whoever reads a value then meets the faults of form and the faults of content in the order
in which they stand in the text, and the first one counts.  An array or object that is not `whole`
ends before a fault.
-/

namespace FailoverStorage

/-- **A JSON value**, as far as its text is well formed. -/
inductive Json where
  | null
  | boolean (b : Bool)
  /-- A number, as it is written. -/
  | number (literal : List Char)
  | text (s : String)
  | array (items : List Json) (whole : Bool := true)
  | object (members : List (String × Json)) (whole : Bool := true)
  /-- A string that denotes no text, because it names half of a surrogate pair. -/
  | halfPair
  /-- A place where no value stands. -/
  | broken
  deriving Inhabited

namespace Json

/-- A whole number. -/
def ofNat (n : Nat) : Json := .number (Nat.toDigits 10 n)

/-- An array of texts. -/
def texts (items : List String) : Json := .array (items.map .text)

/-- A value that may be missing. -/
def ofOption {α : Type} (write : α → Json) : Option α → Json
  | some a => write a
  | none => .null

/-- What an object binds a key to; the last binding counts. -/
def field? (key : String) : Json → Option Json
  | .object members _ => members.reverse.lookup key
  | _ => none

/-! ## Numbers -/

/-- The digits and the power of ten of a number without its sign. -/
def scaled (literal : List Char) : List Char × Int :=
  let unsigned := literal.filter (· ≠ '-') |>.takeWhile fun c => c ≠ 'e' ∧ c ≠ 'E'
  let whole := unsigned.takeWhile (· ≠ '.')
  let decimals := (unsigned.dropWhile (· ≠ '.')).drop 1
  let exponent : Int := match (literal.dropWhile fun c => c ≠ 'e' ∧ c ≠ 'E').drop 1 with
    | '-' :: digits => -((Text.digits? 10 digits).getD 0 : Nat)
    | digits => ((Text.numeral? digits).getD 0 : Nat)
  (whole ++ decimals, exponent - decimals.length)

/-- Whether a number is finite in binary64. -/
def isFinite (literal : List Char) : Bool :=
  let (digits, exponent) := scaled literal
  !Text.Binary64.overflows digits exponent

end Json

end FailoverStorage

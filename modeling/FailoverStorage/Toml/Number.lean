import FailoverStorage.Text.Binary64
import FailoverStorage.Text.Numeral

/-!
# TOML numbers and dates

Numbers and dates are checked and passed over.  An integer fits 64 bits with sign; a float does
not exceed the largest binary64 value; single underscores may stand between digits.  A date names
a day of the calendar, a time a second of the day (perhaps a leap second), and an offset whole
minutes below a day.
-/

namespace FailoverStorage.Toml

open Text

/-! ## Digits -/

/-- Whether a character is a digit below `base`. -/
def isDigitOf (base : Nat) (c : Char) : Bool := (digit? base c).isSome

/-- The further digits of a run, and what follows: an underscore must be followed by a digit. -/
def readMoreDigits (base : Nat) : List Char → Option (List Char × List Char)
  | [] => some ([], [])
  | ['_'] => none
  | '_' :: c :: rest =>
    if isDigitOf base c then
      (readMoreDigits base rest).map fun (digits, rest) => (c :: digits, rest)
    else none
  | c :: rest =>
    if isDigitOf base c then
      (readMoreDigits base rest).map fun (digits, rest) => (c :: digits, rest)
    else some ([], c :: rest)

/-- A run of digits, and what follows. -/
def readDigits (base : Nat) : List Char → Option (List Char × List Char)
  | c :: rest =>
    if isDigitOf base c then
      (readMoreDigits base rest).map fun (digits, rest) => (c :: digits, rest)
    else none
  | [] => none

/-- The digits of a whole number: a zero stands alone. -/
def readWhole : List Char → Option (List Char × List Char)
  | '0' :: rest => some (['0'], rest)
  | s => readDigits 10 s

/-! ## Numbers -/

/-- A sign and what follows it; without a sign a number is not negative. -/
def readSign : List Char → Bool × List Char
  | '-' :: rest => (true, rest)
  | '+' :: rest => (false, rest)
  | s => (false, s)

/-- The decimals of a float and what follows them. -/
def readDecimals : List Char → Option (List Char × List Char)
  | '.' :: rest => readDigits 10 rest
  | s => some ([], s)

/-- The exponent of a float and what follows it. -/
def readExponent : List Char → Option (Int × List Char)
  | c :: rest =>
    if c = 'e' ∨ c = 'E' then do
      let (negative, rest) := readSign rest
      let (digits, rest) ← readDigits 10 rest
      let n ← digits? 10 digits
      return (if negative then -(n : Int) else n, rest)
    else some (0, c :: rest)
  | [] => some (0, [])

/-- Whether an integer with sign fits 64 bits. -/
def fitsInteger (negative : Bool) (base : Nat) (digits : List Char) : Bool :=
  match digits? base digits with
  | some n => if negative then n ≤ UInt64.size / 2 else n < UInt64.size / 2
  | none => false

/-- Passes over an integer in another base than ten. -/
def skipBased (base : Nat) (s : List Char) : Option (List Char) := do
  let (digits, rest) ← readDigits base s
  if fitsInteger false base digits then some rest else none

/-- Passes over a decimal integer or a float.  Only a positive float can be too large. -/
def skipDecimal (s : List Char) : Option (List Char) := do
  let (negative, s) := readSign s
  let (whole, afterWhole) ← readWhole s
  let (decimals, afterDecimals) ← readDecimals afterWhole
  let (exponent, rest) ← readExponent afterDecimals
  if rest.length = afterWhole.length then
    if fitsInteger negative 10 whole then some rest else none
  else if negative || !Binary64.overflows (whole ++ decimals) (exponent - decimals.length) then
    some rest
  else none

/-- **Passes over a number.** -/
def skipNumber : List Char → Option (List Char)
  | '0' :: 'x' :: rest => skipBased 16 rest
  | '0' :: 'o' :: rest => skipBased 8 rest
  | '0' :: 'b' :: rest => skipBased 2 rest
  | s =>
    match (readSign s).2 with
    | 'i' :: 'n' :: 'f' :: rest => some rest
    | 'n' :: 'a' :: 'n' :: rest => some rest
    | _ => skipDecimal s

/-! ## Dates and times -/

/-- The number that the first `count` characters denote, if all are digits and it lies between the
bounds. -/
def readField (count low high : Nat) (s : List Char) : Option (Nat × List Char) :=
  if (s.take count).length = count then do
    let n ← digits? 10 (s.take count)
    if low ≤ n ∧ n ≤ high then some (n, s.drop count) else none
  else none

/-- The rest of a text after a character that must stand there. -/
def dropChar (c : Char) : List Char → Option (List Char)
  | d :: rest => if d = c then some rest else none
  | [] => none

/-- The days of a month. -/
def daysInMonth (year month : Nat) : Nat :=
  if month = 2 then if year % 4 = 0 ∧ (year % 100 ≠ 0 ∨ year % 400 = 0) then 29 else 28
  else if month ∈ [4, 6, 9, 11] then 30
  else 31

/-- Passes over a date. -/
def skipDate (s : List Char) : Option (List Char) := do
  let (year, s) ← readField 4 0 9999 s
  let (month, s) ← readField 2 1 12 (← dropChar '-' s)
  let (_, s) ← readField 2 1 (daysInMonth year month) (← dropChar '-' s)
  return s

/-- Passes over a time. -/
def skipTime (s : List Char) : Option (List Char) := do
  let (_, s) ← readField 2 0 23 s
  let (_, s) ← readField 2 0 59 (← dropChar ':' s)
  let (_, s) ← readField 2 0 60 (← dropChar ':' s)
  match s with
  | '.' :: c :: rest =>
    if isDigitOf 10 c then return rest.dropWhile (isDigitOf 10) else return s
  | _ => return s

/-- Passes over an offset. -/
def skipOffset : List Char → Option (List Char)
  | c :: rest =>
    if c = 'Z' ∨ c = 'z' then some rest
    else if c = '+' ∨ c = '-' then do
      let (_, s) ← readField 2 0 23 rest
      let (_, s) ← readField 2 0 59 (← dropChar ':' s)
      return s
    else none
  | [] => none

/-- Passes over a time that follows a date. -/
def skipTimeOfDay : List Char → Option (List Char)
  | c :: rest =>
    if c = 'T' ∨ c = 't' ∨ c = ' ' then (skipTime rest).map fun s => (skipOffset s).getD s
    else none
  | [] => none

/-- **Passes over a date, a time or both.** -/
def skipDateTime (s : List Char) : Option (List Char) :=
  match skipDate s with
  | some rest => some ((skipTimeOfDay rest).getD rest)
  | none => skipTime s

end FailoverStorage.Toml

import FailoverStorage.Json.Value

/-!
# Reading JSON

The reader follows the grammar of JSON and never fails: where the text departs from it the value
read so far is marked as not whole, and nothing is read beyond that place.

* `Json.readString` and `Json.readNumber` read single tokens.
* `Json.ofText` reads a text from its beginning; what follows the value is returned as well.
-/

namespace FailoverStorage.Json

open Text

/-! ## Tokens -/

/-- Whether a character may stand between tokens. -/
def isSpace (c : Char) : Bool := c = ' ' || c = '\n' || c = '\t' || c = '\r'

/-- A text without the space at its start. -/
def skipSpace (s : List Char) : List Char := s.dropWhile isSpace

/-- The character that a one-letter escape stands for. -/
def escape? : Char → Option Char
  | '"' => some '"'
  | '\\' => some '\\'
  | '/' => some '/'
  | 'b' => some '\x08'
  | 'f' => some '\x0C'
  | 'n' => some '\n'
  | 'r' => some '\r'
  | 't' => some '\t'
  | _ => none

/-- Whether a code is the first half of a surrogate pair. -/
def isHigh (n : Nat) : Bool := 0xD800 ≤ n && n < 0xDC00

/-- Whether a code is the second half of a surrogate pair. -/
def isLow (n : Nat) : Bool := 0xDC00 ≤ n && n < 0xE000

/-- Puts a character in front of a string that was read. -/
def prepend (c : Char) : Option (Option (List Char) × List Char) →
    Option (Option (List Char) × List Char)
  | some (content, rest) => some (content.map (c :: ·), rest)
  | none => none

/-- A string after its opening quote: its text, which is missing if the string names half of a
surrogate pair, and what follows the closing quote. -/
def readString : List Char → Option (Option (List Char) × List Char)
  | [] => none
  | '"' :: rest => some (some [], rest)
  | '\\' :: 'u' :: a :: b :: c :: d :: '\\' :: 'u' :: e :: f :: g :: h :: rest =>
    match digits? 16 [a, b, c, d], digits? 16 [e, f, g, h] with
    | some high, some low =>
      if isHigh high && isLow low then
        prepend (Char.ofNat (0x10000 + (high - 0xD800) * 0x400 + (low - 0xDC00))) (readString rest)
      else if isHigh high || isLow high then
        (readString ('\\' :: 'u' :: e :: f :: g :: h :: rest)).map fun (_, rest) => (none, rest)
      else prepend (Char.ofNat high) (readString ('\\' :: 'u' :: e :: f :: g :: h :: rest))
    | _, _ => none
  | '\\' :: 'u' :: a :: b :: c :: d :: rest =>
    match digits? 16 [a, b, c, d] with
    | some n =>
      if isHigh n || isLow n then (readString rest).map fun (_, rest) => (none, rest)
      else prepend (Char.ofNat n) (readString rest)
    | none => none
  | '\\' :: c :: rest =>
    match escape? c with
    | some c => prepend c (readString rest)
    | none => none
  | c :: rest =>
    if c ≠ '\\' ∧ 0x20 ≤ c.toNat then prepend c (readString rest) else none

/-- A run of digits and what follows it; there must be one. -/
def readDigits (s : List Char) : Option (List Char × List Char) :=
  match s.takeWhile Char.isDigit with
  | [] => none
  | digits => some (digits, s.dropWhile Char.isDigit)

/-- The whole part of a number: a zero stands alone. -/
def readWhole : List Char → Option (List Char × List Char)
  | '0' :: c :: rest => if c.isDigit then none else some (['0'], c :: rest)
  | s => readDigits s

/-- The decimals of a number, with their point. -/
def readDecimals : List Char → Option (List Char × List Char)
  | '.' :: rest => (readDigits rest).map fun (digits, rest) => ('.' :: digits, rest)
  | s => some ([], s)

/-- The exponent of a number, with its letter and sign. -/
def readExponent : List Char → Option (List Char × List Char)
  | c :: rest =>
    if c = 'e' ∨ c = 'E' then
      match rest with
      | '+' :: rest => (readDigits rest).map fun (digits, rest) => (c :: '+' :: digits, rest)
      | '-' :: rest => (readDigits rest).map fun (digits, rest) => (c :: '-' :: digits, rest)
      | rest => (readDigits rest).map fun (digits, rest) => (c :: digits, rest)
    else some ([], c :: rest)
  | [] => some ([], [])

/-- A number as it is written, and what follows it. -/
def readNumber (s : List Char) : Option (List Char × List Char) := do
  let (sign, s) := match s with
    | '-' :: rest => (['-'], rest)
    | s => ([], s)
  let (whole, s) ← readWhole s
  let (decimals, s) ← readDecimals s
  let (exponent, s) ← readExponent s
  return (sign ++ whole ++ decimals ++ exponent, s)

/-! ## Values -/

/-- Whether nothing is missing from a value. -/
def isWhole : Json → Bool
  | .array _ whole => whole
  | .object _ whole => whole
  | .broken => false
  | _ => true

mutual

/-- A value that begins a text, after space, and what follows it.  `fuel` bounds the tokens. -/
def readValue : (fuel : Nat) → List Char → Json × List Char
  | 0, _ => (.broken, [])
  | fuel + 1, s =>
    match skipSpace s with
    | 'n' :: 'u' :: 'l' :: 'l' :: rest => (.null, rest)
    | 't' :: 'r' :: 'u' :: 'e' :: rest => (.boolean true, rest)
    | 'f' :: 'a' :: 'l' :: 's' :: 'e' :: rest => (.boolean false, rest)
    | '"' :: rest =>
      match readString rest with
      | some (some content, rest) => (.text (String.ofList content), rest)
      | some (none, rest) => (.halfPair, rest)
      | none => (.broken, [])
    | '[' :: rest =>
      match skipSpace rest with
      | ']' :: rest => (.array [], rest)
      | s => let (items, whole, rest) := readItems fuel s; (.array items whole, rest)
    | '\x7b' :: rest =>
      match skipSpace rest with
      | '\x7d' :: rest => (.object [], rest)
      | s => let (members, whole, rest) := readMembers fuel s; (.object members whole, rest)
    | s =>
      match readNumber s with
      | some (literal, rest) => (.number literal, rest)
      | none => (.broken, [])

/-- The items of an array from one on, whether its closing bracket was found, and what follows. -/
def readItems : (fuel : Nat) → List Char → List Json × Bool × List Char
  | 0, _ => ([], false, [])
  | fuel + 1, s =>
    let (item, rest) := readValue fuel s
    if item.isWhole then
      match skipSpace rest with
      | ']' :: rest => ([item], true, rest)
      | ',' :: rest => let (items, whole, rest) := readItems fuel rest; (item :: items, whole, rest)
      | _ => ([item], false, [])
    else ([item], false, [])

/-- The members of an object from one on, whether its closing brace was found, and what follows. -/
def readMembers : (fuel : Nat) → List Char → List (String × Json) × Bool × List Char
  | 0, _ => ([], false, [])
  | fuel + 1, s =>
    match skipSpace s with
    | '"' :: rest =>
      match readString rest with
      | some (some key, rest) =>
        let key := String.ofList key
        match skipSpace rest with
        | ':' :: rest =>
          let (value, rest) := readValue fuel rest
          if value.isWhole then
            match skipSpace rest with
            | '\x7d' :: rest => ([(key, value)], true, rest)
            | ',' :: rest =>
              let (members, whole, rest) := readMembers fuel rest
              ((key, value) :: members, whole, rest)
            | _ => ([(key, value)], false, [])
          else ([(key, value)], false, [])
        | _ => ([(key, .broken)], false, [])
      | _ => ([], false, [])
    | _ => ([], false, [])

end

/-- **The value that begins a text**, and what follows it. -/
def ofText (s : String) : Json × List Char :=
  let s := s.toList
  readValue (2 * s.length + 2) s

end FailoverStorage.Json

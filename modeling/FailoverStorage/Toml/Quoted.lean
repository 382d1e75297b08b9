import FailoverStorage.Text.Numeral

/-!
# TOML strings

A string stands between single or double quotes, one of either for a single line and three for
several lines.  Between double quotes a backslash begins an escape; between single quotes every
character stands for itself.  A line break directly after three quotes does not count, and one or
two quotes may touch the closing ones.  Line breaks read as line feeds.
-/

namespace FailoverStorage.Toml

open Text

/-- Whether a character may stand for itself in strings and comments: no control character but the
tab. -/
def isPlain (c : Char) : Bool := c = '\t' || (0x20 ≤ c.toNat && c.toNat ≠ 0x7F)

/-- The rest of a text after a line break at its start. -/
def dropLineBreak? : List Char → Option (List Char)
  | '\n' :: rest => some rest
  | '\r' :: '\n' :: rest => some rest
  | _ => none

/-! ## Escapes -/

/-- The character that a one-letter escape stands for. -/
def escape? : Char → Option Char
  | 'b' => some '\x08'
  | 't' => some '\t'
  | 'n' => some '\n'
  | 'f' => some '\x0C'
  | 'r' => some '\r'
  | '"' => some '"'
  | '\\' => some '\\'
  | _ => none

/-- The character with the code that hexadecimal digits denote. -/
def scalar? (digits : List Char) : Option Char :=
  (digits? 16 digits).bind fun n => if n.isValidChar then some (Char.ofNat n) else none

/-! ## Single lines -/

/-- A string between double quotes, after the opening one. -/
def readBasic : List Char → Option (List Char × List Char)
  | [] => none
  | '"' :: rest => some ([], rest)
  | '\\' :: 'u' :: a :: b :: c :: d :: rest => do
    let first ← scalar? [a, b, c, d]
    let (content, rest) ← readBasic rest
    return (first :: content, rest)
  | '\\' :: 'U' :: a :: b :: c :: d :: e :: f :: g :: h :: rest => do
    let first ← scalar? [a, b, c, d, e, f, g, h]
    let (content, rest) ← readBasic rest
    return (first :: content, rest)
  | '\\' :: c :: rest => do
    let first ← escape? c
    let (content, rest) ← readBasic rest
    return (first :: content, rest)
  | c :: rest =>
    if c ≠ '\\' ∧ isPlain c then (readBasic rest).map fun (content, rest) => (c :: content, rest)
    else none

/-- A string between single quotes, after the opening one. -/
def readLiteral : List Char → Option (List Char × List Char)
  | [] => none
  | '\'' :: rest => some ([], rest)
  | c :: rest =>
    if isPlain c then (readLiteral rest).map fun (content, rest) => (c :: content, rest)
    else none

/-! ## Several lines -/

/-- What follows three quotes that close a string: up to two more quotes belong to the content. -/
def closing (quote : Char) : List Char → List Char × List Char
  | a :: b :: rest =>
    if a = quote then if b = quote then ([a, b], rest) else ([a], b :: rest)
    else ([], a :: b :: rest)
  | [a] => if a = quote then ([a], []) else ([], [a])
  | [] => ([], [])

/-- Whether nothing but blanks stands before the next line break. -/
def endsLine : List Char → Bool
  | ' ' :: rest => endsLine rest
  | '\t' :: rest => endsLine rest
  | rest => (dropLineBreak? rest).isSome

/-- A string between three double quotes, after the opening ones.  A backslash at the end of a line
takes away all blanks and line breaks up to the next other character; `folding` tells whether one
does so at this place. -/
def readMultiBasic : (folding : Bool) → List Char → Option (List Char × List Char)
  | _, [] => none
  | _, '"' :: '"' :: '"' :: rest => some (closing '"' rest)
  | folding, '\r' :: '\n' :: rest =>
    if folding then readMultiBasic true rest
    else (readMultiBasic false rest).map fun (content, rest) => ('\n' :: content, rest)
  | _, '\\' :: 'u' :: a :: b :: c :: d :: rest => do
    let first ← scalar? [a, b, c, d]
    let (content, rest) ← readMultiBasic false rest
    return (first :: content, rest)
  | _, '\\' :: 'U' :: a :: b :: c :: d :: e :: f :: g :: h :: rest => do
    let first ← scalar? [a, b, c, d, e, f, g, h]
    let (content, rest) ← readMultiBasic false rest
    return (first :: content, rest)
  | _, '\\' :: c :: rest =>
    if endsLine (c :: rest) then readMultiBasic true (c :: rest)
    else do
      let first ← escape? c
      let (content, rest) ← readMultiBasic false rest
      return (first :: content, rest)
  | folding, c :: rest =>
    if folding ∧ (c = ' ' ∨ c = '\t' ∨ c = '\n') then readMultiBasic true rest
    else if c ≠ '\\' ∧ (isPlain c ∨ c = '\n') then
      (readMultiBasic false rest).map fun (content, rest) => (c :: content, rest)
    else none

/-- A string between three single quotes, after the opening ones. -/
def readMultiLiteral : List Char → Option (List Char × List Char)
  | [] => none
  | '\'' :: '\'' :: '\'' :: rest => some (closing '\'' rest)
  | '\r' :: '\n' :: rest =>
    (readMultiLiteral rest).map fun (content, rest) => ('\n' :: content, rest)
  | c :: rest =>
    if isPlain c ∨ c = '\n' then
      (readMultiLiteral rest).map fun (content, rest) => (c :: content, rest)
    else none

/-! ## All strings -/

/-- A string on a single line. -/
def readLine : List Char → Option (List Char × List Char)
  | '"' :: rest => readBasic rest
  | '\'' :: rest => readLiteral rest
  | _ => none

/-- **A string of any form**, and what follows it. -/
def readQuoted : List Char → Option (List Char × List Char)
  | '"' :: '"' :: '"' :: rest => readMultiBasic false ((dropLineBreak? rest).getD rest)
  | '\'' :: '\'' :: '\'' :: rest => readMultiLiteral ((dropLineBreak? rest).getD rest)
  | s => readLine s

end FailoverStorage.Toml

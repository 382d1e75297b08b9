import FailoverStorage.Toml.Number
import FailoverStorage.Toml.Quoted
import FailoverStorage.Toml.Value

/-!
# Reading TOML

A document is a sequence of lines: assignments, headers, comments and blank lines.  The
assignments below a header make up its section; those above all headers belong to the document
itself.  Arrays and inline tables may nest to a depth of 79, and a key may have as many parts.

* `readValue` reads one value, `readLines` the lines of a document.
* `read` puts the sections together and fails if they contradict each other.
-/

namespace FailoverStorage.Toml

/-- The number of levels to which values nest, and of parts that a key has. -/
def maxDepth : Nat := 79

/-! ## Blanks and comments -/

/-- A text without the blanks at its start. -/
def skipBlanks (s : List Char) : List Char := s.dropWhile fun c => c = ' ' ∨ c = '\t'

/-- Passes over blanks, line breaks and comments; `comment` tells whether a comment has begun.  A
comment ends with its line. -/
def skipLines : (comment : Bool) → List Char → Option (List Char)
  | _, '\r' :: '\n' :: rest => skipLines false rest
  | _, '\n' :: rest => skipLines false rest
  | true, c :: rest => if isPlain c then skipLines true rest else none
  | true, [] => none
  | false, '#' :: rest => skipLines true rest
  | false, ' ' :: rest => skipLines false rest
  | false, '\t' :: rest => skipLines false rest
  | false, rest => some rest

/-- Passes over a comment and the end of its line; a document may end with a comment. -/
def skipComment : List Char → Option (List Char)
  | [] => some []
  | '\n' :: rest => some rest
  | '\r' :: '\n' :: rest => some rest
  | c :: rest => if isPlain c then skipComment rest else none

/-- Passes over the end of a line: blanks, perhaps a comment, and a line break or the end of the
document. -/
def skipLineEnd (s : List Char) : Option (List Char) :=
  match skipBlanks s with
  | [] => some []
  | '#' :: rest => skipComment rest
  | s => dropLineBreak? s

/-! ## Keys -/

/-- Whether a character may stand in a key without quotes. -/
def isBare (c : Char) : Bool :=
  ('A' ≤ c && c ≤ 'Z') || ('a' ≤ c && c ≤ 'z') || ('0' ≤ c && c ≤ '9') || c = '-' || c = '_'

/-- One part of a key. -/
def readPart (s : List Char) : Option (String × List Char) :=
  match s.takeWhile isBare with
  | [] => (readLine s).map fun (part, rest) => (String.ofList part, rest)
  | part => some (String.ofList part, s.dropWhile isBare)

/-- The parts of a key, at most `most` of them, and what follows the key and its blanks. -/
def readParts : (most : Nat) → List Char → Option (List String × List Char)
  | 0, _ => none
  | most + 1, s => do
    let (part, rest) ← readPart (skipBlanks s)
    match skipBlanks rest with
    | '.' :: rest => (readParts most rest).map fun (parts, rest) => (part :: parts, rest)
    | rest => return ([part], rest)

/-- A key: its parts but the last, and the last. -/
def readKey (s : List Char) : Option ((List String × String) × List Char) := do
  let (parts, rest) ← readParts maxDepth s
  let key ← parts.getLast?
  return ((parts.dropLast, key), rest)

/-- A key, an equals sign and a value. -/
def readAssignment (readValue : List Char → Option (Value × List Char)) (s : List Char) :
    Option (Assignment × List Char) := do
  let ((path, key), rest) ← readKey s
  let (value, rest) ← readValue (skipBlanks (← dropChar '=' rest))
  return ({ path, key, value }, rest)

/-! ## Values -/

/-- A value that holds no others. -/
def readScalar : List Char → Option (Value × List Char)
  | 't' :: 'r' :: 'u' :: 'e' :: rest => some (.boolean true, rest)
  | 'f' :: 'a' :: 'l' :: 's' :: 'e' :: rest => some (.boolean false, rest)
  | s =>
    match readQuoted s with
    | some (content, rest) => some (.text (String.ofList content), rest)
    | none =>
      match skipDateTime s with
      | some rest => some (.dateTime, rest)
      | none => (skipNumber s).map fun rest => (.number, rest)

/-- The items of an array up to its closing bracket, at most `most` of them.  A comma may follow the
last one. -/
def readItems (readValue : List Char → Option (Value × List Char)) :
    (most : Nat) → List Char → Option (List Value × List Char)
  | 0, _ => none
  | most + 1, s =>
    match skipLines false s with
    | none => none
    | some (']' :: rest) => some ([], rest)
    | some s => do
      let (item, rest) ← readValue s
      match ← skipLines false rest with
      | ']' :: rest => return ([item], rest)
      | ',' :: rest => do
        let (items, rest) ← readItems readValue most rest
        return (item :: items, rest)
      | _ => none

/-- The assignments of an inline table up to its closing brace, at most `most` of them. -/
def readInline (readValue : List Char → Option (Value × List Char)) :
    (most : Nat) → List Char → Option (List Assignment × List Char)
  | 0, _ => none
  | most + 1, s => do
    let (first, rest) ← readAssignment readValue s
    match skipBlanks rest with
    | '\x7d' :: rest => return ([first], rest)
    | ',' :: rest => do
      let (others, rest) ← readInline readValue most rest
      return (first :: others, rest)
    | _ => none

/-- **A value**, in which arrays and inline tables nest at most `depth` deep, and what follows. -/
def readValue : (depth : Nat) → List Char → Option (Value × List Char)
  | 0, s => readScalar s
  | depth + 1, s =>
    match s with
    | '[' :: rest =>
      (readItems (readValue depth) s.length rest).map fun (items, rest) => (.array items, rest)
    | '\x7b' :: rest =>
      match skipBlanks rest with
      | '\x7d' :: rest => some (.table .inline [], rest)
      | _ => do
        let (assignments, rest) ← readInline (readValue depth) s.length rest
        let entries ← assignAll [] assignments
        return (.table .inline entries, rest)
    | s => readScalar s

/-! ## Lines -/

/-- The header of a section. -/
inductive Header where
  /-- A table, between brackets. -/
  | table (path : List String) (key : String)
  /-- One more table of a list, between double brackets. -/
  | element (path : List String) (key : String)

/-- A line that says something. -/
inductive Line where
  | assignment (a : Assignment)
  | header (h : Header)

/-- One line and what follows it. -/
def readOne : List Char → Option (Line × List Char)
  | '[' :: '[' :: s => do
    let ((path, key), s) ← readKey s
    let s ← skipLineEnd (← dropChar ']' (← dropChar ']' s))
    return (.header (.element path key), s)
  | '[' :: s => do
    let ((path, key), s) ← readKey s
    let s ← skipLineEnd (← dropChar ']' s)
    return (.header (.table path key), s)
  | s => do
    let (a, s) ← readAssignment (readValue maxDepth) s
    let s ← skipLineEnd s
    return (.assignment a, s)

/-- **The lines of a text**, at most `most` of them with the blank ones. -/
def readLines : (most : Nat) → List Char → Option (List Line)
  | 0, _ => none
  | most + 1, s =>
    match skipBlanks s with
    | [] => some []
    | '#' :: rest => do readLines most (← skipComment rest)
    | s =>
      match dropLineBreak? s with
      | some rest => readLines most rest
      | none => do
        let (line, rest) ← readOne s
        return line :: (← readLines most rest)

/-! ## Documents -/

/-- The assignments above the first header, and each header with those below it. -/
def sections : List Line → List Assignment × List (Header × List Assignment)
  | [] => ([], [])
  | .assignment a :: rest => let (top, below) := sections rest; (a :: top, below)
  | .header h :: rest => let (top, below) := sections rest; ([], (h, top) :: below)

/-- Adds a section to a document. -/
def addSection (root : Entries) : Header × List Assignment → Option Entries
  | (.table path key, assignments) => openTable root path key assignments
  | (.element path key, assignments) => appendElement root path key assignments

/-- Adds sections to a document one after another. -/
def addSections (root : Entries) : List (Header × List Assignment) → Option Entries
  | [] => some root
  | s :: rest => (addSection root s).bind fun root => addSections root rest

/-- The document that lines make up. -/
def ofLines (lines : List Line) : Option Entries := do
  let (top, below) := sections lines
  addSections (← assignAll [] top) below

/-- **Reads a document**, perhaps after a byte order mark. -/
def read (s : List Char) : Option Entries :=
  let s := match s with
    | '\uFEFF' :: rest => rest
    | s => s
  (readLines (s.length + 1) s).bind ofLines

end FailoverStorage.Toml

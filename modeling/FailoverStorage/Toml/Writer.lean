import FailoverStorage.Text.Split
import FailoverStorage.Toml.Reader

/-!
# Writing TOML

A string is written in the first form that can hold it as it is: between double quotes, between
single ones, then over several lines likewise; only a string that none of these holds is escaped.
A key without quotes needs none of that.
-/

namespace FailoverStorage.Toml

open Text

/-! ## Escaped strings -/

/-- Whether a character must be escaped between double quotes whatever the form: a control
character other than the tab and the line feed. -/
def isControl (c : Char) : Bool := !isPlain c && c ≠ '\n'

/-- The code of a control character as an escape. -/
def codeEscape (c : Char) : List Char :=
  '\\' :: 'u' :: (hexadecimal 4 c.toNat).map Char.toUpper

/-- The escape for a character that has one in both forms between double quotes. -/
def escapeOf? (c : Char) : Option (List Char) :=
  if c = '\x08' then some ['\\', 'b']
  else if c = '\t' then some ['\\', 't']
  else if c = '\x0C' then some ['\\', 'f']
  else if c = '\r' then some ['\\', 'r']
  else if c = '\\' then some ['\\', '\\']
  else if isControl c then some (codeEscape c)
  else none

/-- A string as it stands between single-line double quotes. -/
def escapedLine : List Char → List Char
  | [] => []
  | c :: rest =>
    if c = '"' then '\\' :: '"' :: escapedLine rest
    else if c = '\n' then '\\' :: 'n' :: escapedLine rest
    else (escapeOf? c).getD [c] ++ escapedLine rest

/-- A string as it stands between multi-line double quotes, of which `quotes` more may stand
unescaped: of three in a row the last one is escaped. -/
def escapedLines (quotes : Nat) : List Char → List Char
  | [] => []
  | c :: rest =>
    if c = '"' then
      match quotes with
      | 0 => '\\' :: '"' :: escapedLines 2 rest
      | quotes + 1 => '"' :: escapedLines quotes rest
    else (escapeOf? c).getD [c] ++ escapedLines 2 rest

/-! ## The choice of a form -/

/-- Whether three quotes stand next to each other. -/
def hasRun (quote : Char) (s : List Char) : Bool := occurs [quote, quote, quote] s

/-- A multi-line form: text with a line feed begins on a line of its own. -/
def overLines (quote : Char) (s written : List Char) : List Char :=
  let quotes := [quote, quote, quote]
  quotes ++ (if '\n' ∈ s then ['\n'] else []) ++ written ++ quotes

/-- **A string as it is written.** -/
def string (s : List Char) : List Char :=
  let hasControl := s.any isControl
  let basic := '"' :: escapedLine s ++ ['"']
  if !hasControl && '\\' ∉ s && '"' ∉ s && '\n' ∉ s then basic
  else if !hasControl && '\'' ∉ s && '\n' ∉ s then '\'' :: s ++ ['\'']
  else if !hasControl && '\\' ∉ s && !hasRun '"' s then overLines '"' s (escapedLines 2 s)
  else if !hasControl && !hasRun '\'' s then overLines '\'' s s
  else if '\n' ∈ s then overLines '"' s (escapedLines 2 s)
  else basic

/-- **A part of a key as it is written.** -/
def part (s : List Char) : List Char :=
  let hasControl := s.any fun c => isControl c || c = '\n'
  if !s.isEmpty && s.all isBare then s
  else if !hasControl && '\'' ∉ s && ('\\' ∈ s || '"' ∈ s) then '\'' :: s ++ ['\'']
  else '"' :: escapedLine s ++ ['"']

/-! ## Values -/

/-- A text value. -/
def textValue (s : String) : List Char := string s.toList

/-- A boolean value. -/
def booleanValue (b : Bool) : List Char := if b then "true".toList else "false".toList

/-- An array of texts on one line. -/
def textsValue (items : List String) : List Char :=
  '[' :: ((items.map textValue).intersperse ", ".toList).flatten ++ [']']

/-- A line that assigns a value to a key that needs no quotes. -/
def assignmentLine (key : String) (value : List Char) : List Char :=
  key.toList ++ " = ".toList ++ value ++ ['\n']

end FailoverStorage.Toml

import FailoverStorage.Promoter.Agent
import FailoverStorage.Text.Blank
import FailoverStorage.Text.Split

/-!
# Agent lines

A configuration holds an agent as one line, `kind name key=value ...`.  The line is cut into words
at blanks.  Double quotes may enclose any part of a word; between them blanks are ordinary
characters and a backslash takes the next character as it is.  Writing puts quotes around exactly
the values that need them.

* `Agent.line` writes, `Agent.ofLine` reads.
* `Agent.words` is the cutting alone.
-/

namespace FailoverStorage.Agent

open Text

/-! ## Words of a line -/

/-- Why a text is not an agent line. -/
inductive LineFault where
  /-- The line ends after a backslash between quotes. -/
  | danglingEscape
  /-- The line ends between quotes. -/
  | unterminatedQuote
  /-- There are no words. -/
  | empty
  /-- The kind is the only word. -/
  | nameless (kind : String)
  /-- A word after the name has no equals sign. -/
  | malformedAttribute (word : String)
  /-- A word after the name begins with its equals sign. -/
  | emptyKey
  deriving DecidableEq

/-- The text of a fault in a line. -/
def LineFault.text (line : String) : LineFault → String
  | danglingEscape => "dangling escape in '" ++ line ++ "'"
  | unterminatedQuote => "unterminated quote in '" ++ line ++ "'"
  | empty => "empty agent entry"
  | nameless kind => "agent '" ++ kind ++ "' has no name"
  | malformedAttribute word => "malformed attribute '" ++ word ++ "' in '" ++ line ++ "'"
  | emptyKey => "empty attribute key in '" ++ line ++ "'"

/-- The words of the rest of a line: `quoted` tells whether it begins between quotes, and `word` is
the word begun before it, if one is. -/
def wordsFrom : (quoted : Bool) → (word : Option (List Char)) → List Char →
    Except LineFault (List (List Char))
  | true, _, [] => .error .unterminatedQuote
  | false, word, [] => .ok word.toList
  | true, _, ['\\'] => .error .danglingEscape
  | true, word, '\\' :: c :: rest => wordsFrom true (some (word.getD [] ++ [c])) rest
  | quoted, word, c :: rest =>
    if c = '"' then wordsFrom (!quoted) (some (word.getD [])) rest
    else if isBlank c && !quoted then (wordsFrom false none rest).map (word.toList ++ ·)
    else wordsFrom quoted (some (word.getD [] ++ [c])) rest

/-- **The words of a line.** -/
def words (line : List Char) : Except LineFault (List (List Char)) := wordsFrom false none line

/-! ## Reading -/

/-- Sets the attributes that words stand for, one after another. -/
def withAttributes (attributes : SortedMap String String) :
    List (List Char) → Except LineFault (SortedMap String String)
  | [] => .ok attributes
  | word :: rest =>
    match splitFirst '=' word with
    | none => .error (.malformedAttribute (String.ofList word))
    | some (key, value) =>
      if key.isEmpty then .error .emptyKey
      else withAttributes (attributes.insert (String.ofList key) (String.ofList value)) rest

/-- The agent that the words of a line stand for. -/
def ofWords : List (List Char) → Except LineFault Agent
  | [] => .error .empty
  | [kind] => .error (.nameless (String.ofList kind))
  | kind :: name :: rest =>
    (withAttributes .empty rest).map fun attributes =>
      { kind := String.ofList kind, name := String.ofList name, attributes }

/-- **Reads an agent line.** -/
def ofLine (line : String) : Except Error Agent :=
  match (words line.toList).bind ofWords with
  | .ok agent => .ok agent
  | .error fault => .error (.promoter (fault.text line))

/-! ## Writing -/

/-- Whether a character takes away the meaning of a value written without quotes. -/
def needsQuotes (c : Char) : Bool := isBlank c || c = '"' || c = '\\'

/-- A value between quotes, with a backslash before each quote and backslash. -/
def escaped : List Char → List Char
  | [] => ['"']
  | c :: rest => if c = '"' ∨ c = '\\' then '\\' :: c :: escaped rest else c :: escaped rest

/-- A value as it stands in a line. -/
def quoted (value : List Char) : List Char :=
  if value.isEmpty || value.any needsQuotes then '"' :: escaped value else value

/-- Attributes as they stand in a line. -/
def attributesText : List (String × String) → List Char
  | [] => []
  | (key, value) :: rest =>
    ' ' :: key.toList ++ '=' :: quoted value.toList ++ attributesText rest

/-- **Writes an agent as a line**, its attributes in key order. -/
def line (a : Agent) : String :=
  String.ofList (a.kind.toList ++ ' ' :: a.name.toList ++ attributesText a.attributes.entries)

end FailoverStorage.Agent

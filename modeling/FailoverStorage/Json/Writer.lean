import FailoverStorage.Json.Value
import FailoverStorage.Text.Split

/-!
# Writing JSON

Values are written without space, for requests and answers over HTTP, or over several lines with an
indentation of two, for people.  Members keep their order.
-/

namespace FailoverStorage.Json

open Text

/-! ## Strings -/

/-- A character as it stands in a string. -/
def escaped (c : Char) : List Char :=
  if c = '"' then ['\\', '"']
  else if c = '\\' then ['\\', '\\']
  else if c = '\n' then ['\\', 'n']
  else if c = '\r' then ['\\', 'r']
  else if c = '\t' then ['\\', 't']
  else if c = '\x08' then ['\\', 'b']
  else if c = '\x0C' then ['\\', 'f']
  else if c.toNat < 0x20 then '\\' :: 'u' :: hexadecimal 4 c.toNat
  else [c]

/-- A string between quotes. -/
def quoted (s : String) : String :=
  String.ofList ('"' :: s.toList.flatMap escaped ++ ['"'])

/-! ## On one line -/

mutual

/-- **A value without any space.** -/
def compact : Json → String
  | .null => "null"
  | .boolean b => if b then "true" else "false"
  | .number literal => String.ofList literal
  | .text s => quoted s
  | .array items _ => "[" ++ joinWith "," (compactItems items) ++ "]"
  | .object members _ => "\x7b" ++ joinWith "," (compactMembers members) ++ "\x7d"
  | .halfPair => quoted ""
  | .broken => "null"

/-- The items of an array. -/
def compactItems : List Json → List String
  | [] => []
  | item :: items => compact item :: compactItems items

/-- The members of an object. -/
def compactMembers : List (String × Json) → List String
  | [] => []
  | (key, value) :: members => (quoted key ++ ":" ++ compact value) :: compactMembers members

end

/-! ## Over several lines -/

/-- Entries on lines of their own between brackets, which stand at the given depth. -/
def block (depth : Nat) (opening closing : String) : List String → String
  | [] => opening ++ closing
  | entries =>
    let indent (n : Nat) : String := String.ofList (List.replicate (2 * n) ' ')
    opening ++ "\n"
      ++ joinWith ",\n" (entries.map fun e => indent (depth + 1) ++ e) ++ "\n" ++ indent depth
      ++ closing

mutual

/-- **A value over several lines**, at the given depth of indentation. -/
def pretty (depth : Nat) : Json → String
  | .array items _ => block depth "[" "]" (prettyItems (depth + 1) items)
  | .object members _ => block depth "\x7b" "\x7d" (prettyMembers (depth + 1) members)
  | .null => compact .null
  | .boolean b => compact (.boolean b)
  | .number literal => compact (.number literal)
  | .text s => compact (.text s)
  | .halfPair => compact .halfPair
  | .broken => compact .broken

/-- The items of an array. -/
def prettyItems (depth : Nat) : List Json → List String
  | [] => []
  | item :: items => pretty depth item :: prettyItems depth items

/-- The members of an object. -/
def prettyMembers (depth : Nat) : List (String × Json) → List String
  | [] => []
  | (key, value) :: members =>
    (quoted key ++ ": " ++ pretty depth value) :: prettyMembers depth members

end

end FailoverStorage.Json

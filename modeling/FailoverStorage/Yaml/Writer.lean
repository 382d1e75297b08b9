import FailoverStorage.Json.Value
import FailoverStorage.Yaml.Scalar

/-!
# Writing YAML

A value is written in block style with an indentation of two.  The items of a list are not indented
below the key that they belong to, and the first member of an object that is an item stands on the
line of the item's dash.
-/

namespace FailoverStorage.Yaml

/-- A line break and an indentation. -/
def newLine (indent : Nat) : String := "\n" ++ String.ofList (List.replicate indent ' ')

/-- A value without parts. -/
def leaf (indent : Nat) : Json → String
  | .boolean b => if b then "true" else "false"
  | .number literal => String.ofList literal
  | .text s => scalar indent s
  | .array .. => "[]"
  | .object .. => "\x7b\x7d"
  | .null | .halfPair | .broken => "null"

mutual

/-- A value after a dash; its further lines are indented by `indent`. -/
def item (indent : Nat) : Json → String
  | .array (first :: rest) _ => "- " ++ item (indent + 2) first ++ items (indent + 2) rest indent
  | .object (first :: rest) _ => member indent first ++ members indent rest
  | v => leaf indent v

/-- The further items of a list whose dashes are indented by `indent`. -/
def items (inner : Nat) : List Json → (indent : Nat) → String
  | [], _ => ""
  | v :: rest, indent => newLine indent ++ "- " ++ item inner v ++ items inner rest indent

/-- One member of an object that is indented by `indent`. -/
def member (indent : Nat) : String × Json → String
  | (key, .array (first :: rest) _) =>
    scalar indent key ++ ":" ++ newLine indent ++ "- " ++ item (indent + 2) first
      ++ items (indent + 2) rest indent
  | (key, .object (first :: rest) _) =>
    scalar indent key ++ ":" ++ newLine (indent + 2) ++ member (indent + 2) first
      ++ members (indent + 2) rest
  | (key, v) => scalar indent key ++ ": " ++ leaf (indent + 2) v

/-- The further members of an object that is indented by `indent`. -/
def members (indent : Nat) : List (String × Json) → String
  | [] => ""
  | m :: rest => newLine indent ++ member indent m ++ members indent rest

end

/-- **A value as a YAML document.** -/
def write : Json → String
  | .array (first :: rest) _ => "- " ++ item 2 first ++ items 2 rest 0 ++ "\n"
  | .object (first :: rest) _ => member 0 first ++ members 0 rest ++ "\n"
  | v => leaf 0 v ++ "\n"

end FailoverStorage.Yaml

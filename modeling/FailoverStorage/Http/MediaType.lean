import FailoverStorage.Http.Token
import FailoverStorage.Text.Split

/-!
# Media types

The content type of a request tells whether its body is JSON: the type is `application`, and the
subtype or its suffix is `json`, whatever the case and the parameters.  Parameters must be well
formed all the same.
-/

namespace FailoverStorage.Http.MediaType

open Text

/-! ## Parameters -/

/-- Where the reading of parameters stands. -/
inductive Place where
  /-- Before a name. -/
  | start
  /-- In a name. -/
  | name
  /-- Directly after an equals sign. -/
  | equals
  /-- In a value without quotes. -/
  | plain
  /-- In a value between quotes, of which something was read or not. -/
  | quoted (nonempty : Bool)
  /-- After a value between quotes. -/
  | done

/-- Whether a character may stand between quotes. -/
def isQuoted (c : Char) : Bool := 0x20 ≤ c.toNat && c.toNat ≠ 0x7F

/-- Whether a text, read from a place on, ends a list of parameters. -/
def areParameters : Place → List Char → Bool
  | .start, [] => true
  | .start, c :: rest =>
    if c = ' ' then areParameters .start rest else isToken c && areParameters .name rest
  | .name, [] => false
  | .name, c :: rest =>
    if c = '=' then areParameters .equals rest else isToken c && areParameters .name rest
  | .equals, [] => true
  | .equals, c :: rest =>
    if c = '"' then areParameters (.quoted false) rest else isToken c && areParameters .plain rest
  | .plain, [] => true
  | .plain, c :: rest =>
    if c = ';' then areParameters .start rest else isToken c && areParameters .plain rest
  | .quoted _, [] => false
  | .quoted nonempty, c :: rest =>
    if c = '"' ∧ nonempty then areParameters .done rest
    else isQuoted c && areParameters (.quoted true) rest
  | .done, [] => true
  | .done, c :: rest =>
    if c = ';' then areParameters .start rest else c = ' ' && areParameters .done rest

/-! ## Types -/

/-- The subtype and the suffix that the text after the slash names: the suffix stands after the
last plus sign, unless that begins the text. -/
def subtypeAndSuffix (s : List Char) : List Char × Option (List Char) :=
  match splitLast '+' s with
  | some (c :: before, suffix) => (c :: before, some suffix)
  | _ => (s, none)

/-- **Whether a content type says that the body is JSON.** -/
def isJson (contentType : String) : Bool :=
  let s := contentType.toList
  match splitFirst '/' s with
  | none => false
  | some (type, rest) =>
    let lower (t : List Char) : List Char := t.map Char.toLower
    let name := rest.takeWhile fun c => c ≠ ';' ∧ c ≠ ' '
    let parameters := (rest.dropWhile fun c => c ≠ ';' ∧ c ≠ ' ').drop 1
    let (subtype, suffix) := subtypeAndSuffix (lower name)
    lower type = "application".toList && !name.isEmpty && name.all isToken
      && areParameters .start parameters
      && (subtype = "json".toList || suffix = some "json".toList)

end FailoverStorage.Http.MediaType

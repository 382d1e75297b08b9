import FailoverStorage.Error

/-!
# Resource names

A resource of the storage controller is named by a letter and up to 47 letters, digits, underscores
and hyphens, all of them ASCII.  The name of every endpoint ends in such a name.
-/

namespace FailoverStorage.ResourceName

/-- The bytes that a resource name has at most. -/
def maxLength : Nat := 48

/-- What is wrong with a text as a resource name. -/
inductive Fault where
  | empty
  | badStart
  | tooLong
  | badCharacter (c : Char)
  deriving DecidableEq

/-- Whether a character may stand in a name after its first letter. -/
def isBody (c : Char) : Bool := c.isAlphanum || c = '_' || c = '-'

/-- The bytes of a text in UTF-8. -/
def byteLength (s : List Char) : Nat := (String.ofList s).utf8ByteSize

/-- **The first fault of a text as a resource name**: of its start, of its length, of the rest. -/
def fault? : List Char → Option Fault
  | [] => some .empty
  | c :: rest =>
    if !c.isAlpha then some .badStart
    else if maxLength < byteLength (c :: rest) then some .tooLong
    else (rest.find? fun d => !isBody d).map .badCharacter

/-- The text of a fault in a name. -/
def Fault.text (name : String) : Fault → String
  | empty => "name must not be empty"
  | badStart => "name '" ++ name ++ "' must start with a letter"
  | tooLong => "name '" ++ name ++ "' is longer than " ++ Text.decimal maxLength ++ " characters"
  | badCharacter c =>
    "name '" ++ name ++ "' contains invalid character '" ++ String.singleton c ++ "'"

/-- Checks a resource name. -/
def check (name : String) : Except Error Unit :=
  match fault? name.toList with
  | none => .ok ()
  | some fault => .error (.validation (fault.text name))

end FailoverStorage.ResourceName

import FailoverStorage.Naming.ResourceName
import FailoverStorage.Text.Split

/-!
# Qualified names

Targets and subsystems have names that are unique in the world: a naming authority, the month from
which it owned its domain, and a name of its own choice, which is the name of the storage resource.
In an IQN that name stands after the first colon, in an NQN after the last one.  A value of `Iqn` or
`Nqn` is a text without fault, so its resource name is always there.
-/

namespace FailoverStorage

open Text

/-- What follows a month `YYYY-MM` at the start of a text. -/
def dropMonth? : List Char → Option (List Char)
  | a :: b :: c :: d :: '-' :: e :: f :: rest =>
    if [a, b, c, d, e, f].all Char.isDigit then some rest else none
  | _ => none

/-! ## iSCSI -/

namespace Iqn

/-- What is wrong with a text as an IQN. -/
inductive Fault where
  | start
  | noName
  | noAuthority
  | month
  | emptyAuthority
  | name (fault : ResourceName.Fault)
  deriving DecidableEq

/-- **The first fault of a text as an IQN**, `iqn.YYYY-MM.authority:name`. -/
def fault? (s : List Char) : Option Fault :=
  match dropStart "iqn.".toList s with
  | none => some .start
  | some rest =>
    match splitFirst ':' rest with
    | none => some .noName
    | some (before, name) =>
      match splitFirst '.' before with
      | none => some .noAuthority
      | some (month, authority) =>
        if dropMonth? month ≠ some [] then some .month
        else if authority.isEmpty then some .emptyAuthority
        else (ResourceName.fault? name).map .name

/-- The part of a text after its first colon. -/
def nameOf (s : List Char) : List Char := ((splitFirst ':' s).map (·.2)).getD []

/-- The text of a fault in an IQN. -/
def Fault.text (s : String) : Fault → String
  | start => "must start with 'iqn.'"
  | noName => "missing ':' before the unique name"
  | noAuthority => "missing naming authority"
  | month => "date must have the form YYYY-MM"
  | emptyAuthority => "empty naming authority"
  | name fault =>
    (Error.validation (fault.text (String.ofList (nameOf s.toList)))).message

end Iqn

/-- **An iSCSI qualified name.** -/
structure Iqn where
  text : String
  /-- The text has no fault. -/
  valid : Iqn.fault? text.toList = none
  deriving DecidableEq

namespace Iqn

/-- The name of the storage resource: what stands after the first colon. -/
def resourceName (iqn : Iqn) : String := String.ofList (nameOf iqn.text.toList)

/-- Reads an IQN. -/
def parse (s : String) : Except Error Iqn :=
  match h : fault? s.toList with
  | none => .ok ⟨s, h⟩
  | some fault => .error (.validation ("invalid IQN '" ++ s ++ "': " ++ fault.text s))

end Iqn

/-! ## NVMe-oF -/

namespace Nqn

/-- The bytes that an NQN has at most. -/
def maxLength : Nat := 223

/-- What is wrong with a text as an NQN. -/
inductive Fault where
  | tooLong
  | start
  | noName
  | authority
  | name (fault : ResourceName.Fault)
  deriving DecidableEq

/-- **The first fault of a text as an NQN**, `nqn.YYYY-MM.domain:...:name`. -/
def fault? (s : List Char) : Option Fault :=
  if maxLength < ResourceName.byteLength s then some .tooLong
  else match dropStart "nqn.".toList s with
    | none => some .start
    | some rest =>
      match splitLast ':' rest with
      | none => some .noName
      | some (before, name) =>
        match dropMonth? before with
        | some ('.' :: _ :: _) => (ResourceName.fault? name).map .name
        | _ => some .authority

/-- The part of a text after its last colon. -/
def nameOf (s : List Char) : List Char := ((splitLast ':' s).map (·.2)).getD []

/-- The text of a fault in an NQN. -/
def Fault.text (s : String) : Fault → String
  | tooLong => "longer than " ++ decimal maxLength ++ " bytes"
  | start => "must start with 'nqn.'"
  | noName => "missing ':' before the subsystem name"
  | authority => "expected 'nqn.YYYY-MM.<domain>'"
  | name fault =>
    (Error.validation (fault.text (String.ofList (nameOf s.toList)))).message

end Nqn

/-- **An NVMe qualified name.** -/
structure Nqn where
  text : String
  /-- The text has no fault. -/
  valid : Nqn.fault? text.toList = none
  deriving DecidableEq

namespace Nqn

/-- The name of the storage resource: what stands after the last colon. -/
def resourceName (nqn : Nqn) : String := String.ofList (nameOf nqn.text.toList)

/-- Reads an NQN. -/
def parse (s : String) : Except Error Nqn :=
  match h : fault? s.toList with
  | none => .ok ⟨s, h⟩
  | some fault => .error (.validation ("invalid NQN '" ++ s ++ "': " ++ fault.text s))

end Nqn

end FailoverStorage

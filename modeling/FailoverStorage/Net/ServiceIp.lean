import FailoverStorage.Error
import FailoverStorage.Net.Address

/-!
# Service IPs

An endpoint claims addresses that move with it, each with the prefix length of its network.  The
same form names the networks that may mount an export.  The prefix length never exceeds the width
of the address, which the type guarantees.
-/

namespace FailoverStorage

/-- **An IP address with a prefix length.** -/
structure ServiceIp where
  address : IpAddress
  prefixLength : UInt8
  /-- The prefix is no longer than the address. -/
  inRange : prefixLength.toNat ≤ address.width
  deriving DecidableEq

namespace ServiceIp

open Text

/-- The service IP of an address and a prefix length, if the length fits. -/
def make (address : IpAddress) (prefixLength : UInt8) : Except Error ServiceIp :=
  if h : prefixLength.toNat ≤ address.width then .ok ⟨address, prefixLength, h⟩
  else .error (.validation ("prefix length " ++ decimal prefixLength.toNat ++ " out of range for "
    ++ address.text))

/-- The network that contains every IPv4 address. -/
def anyV4 : ServiceIp := ⟨.v4 0 0 0 0, 0, by decide⟩

instance : Inhabited ServiceIp := ⟨anyV4⟩

/-- The text of a service IP: the address, a slash and the prefix length. -/
def text (ip : ServiceIp) : String := ip.address.text ++ "/" ++ decimal ip.prefixLength.toNat

/-- **Reads a service IP** at its first slash. -/
def parse (s : String) : Except Error ServiceIp :=
  match splitFirst '/' s.toList with
  | none => .error (.validation ("'" ++ s ++ "' is not in ADDRESS/PREFIX form"))
  | some (address, length) =>
    match IpAddress.read address with
    | none => .error (.validation ("invalid IP address '" ++ String.ofList address ++ "'"))
    | some a =>
      match byte? (String.ofList length) with
      | none => .error (.validation ("invalid prefix length '" ++ String.ofList length ++ "'"))
      | some n => make a n

/-- Byte `i` of a mask whose first `length` bits are set. -/
def maskByte (length i : Nat) : Nat := 256 - Nat.pow 2 (8 - min 8 (length - 8 * i))

/-- The netmask: dotted for IPv4, the prefix length itself for IPv6. -/
def netmask (ip : ServiceIp) : String :=
  let n := ip.prefixLength.toNat
  match ip.address with
  | .v4 .. => IpAddress.dottedQuad (maskByte n 0) (maskByte n 1) (maskByte n 2) (maskByte n 3)
  | .v6 .. => decimal n

end ServiceIp

end FailoverStorage

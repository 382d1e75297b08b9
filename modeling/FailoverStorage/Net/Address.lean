import FailoverStorage.Text.Numeral
import FailoverStorage.Text.Split

/-!
# IP addresses

An address is four bytes or eight 16-bit groups.  IPv4 is written and read as a strict dotted quad.
IPv6 is written as RFC 5952 asks: lower case, no leading zeros, the longest run of at least two
zero groups (the first one on a tie) shortened to `::`, and an IPv4-mapped address with its last
four bytes dotted.  Reading accepts every RFC 4291 form: either case, leading zeros up to four
digits, one `::` for at least one group, and a dotted quad in place of the last two groups.
-/

namespace FailoverStorage

/-- An IP address of either family. -/
inductive IpAddress where
  /-- Four bytes. -/
  | v4 (a b c d : UInt8)
  /-- Eight groups of 16 bits. -/
  | v6 (s₀ s₁ s₂ s₃ s₄ s₅ s₆ s₇ : UInt16)
  deriving DecidableEq, Inhabited

namespace IpAddress

open Text

/-- Whether the address is an IPv4 address. -/
def isV4 : IpAddress → Bool
  | .v4 .. => true
  | .v6 .. => false

/-- The bits of the address, which bound the prefix length. -/
def width (a : IpAddress) : Nat := if a.isV4 then 32 else 128

/-! ## Writing -/

/-- Four bytes as a dotted quad. -/
def dottedQuad (a b c d : Nat) : String :=
  joinWith "." ([a, b, c, d].map decimal)

/-- The lower-case hexadecimal digits of a group. -/
def groupText (n : Nat) : String := String.ofList (Nat.toDigits 16 n)

/-- The number of zeros that a list begins with. -/
def leadingZeros : List Nat → Nat
  | 0 :: rest => leadingZeros rest + 1
  | _ => 0

/-- The start and the length of the longest run of zeros, the first one on a tie; the list begins
at position `start`. -/
def longestZeroRun (start : Nat) : List Nat → Nat × Nat
  | [] => (start, 0)
  | g :: rest =>
    let here := leadingZeros (g :: rest)
    let later := longestZeroRun (start + 1) rest
    if later.2 ≤ here then (start, here) else later

/-- Groups as text: colons between them, `::` in place of the longest run of zeros if it has at
least two. -/
def groupsText (groups : List Nat) : String :=
  let run := longestZeroRun 0 groups
  let colons (gs : List Nat) := joinWith ":" (gs.map groupText)
  if 2 ≤ run.2 then colons (groups.take run.1) ++ "::" ++ colons (groups.drop (run.1 + run.2))
  else colons groups

/-- **The text of an address.** -/
def text : IpAddress → String
  | .v4 a b c d => dottedQuad a.toNat b.toNat c.toNat d.toNat
  | .v6 s₀ s₁ s₂ s₃ s₄ s₅ s₆ s₇ =>
    if s₀ = 0 ∧ s₁ = 0 ∧ s₂ = 0 ∧ s₃ = 0 ∧ s₄ = 0 ∧ s₅ = 0xFFFF then
      "::ffff:" ++ dottedQuad (s₆.toNat / 256) (s₆.toNat % 256) (s₇.toNat / 256) (s₇.toNat % 256)
    else groupsText ([s₀, s₁, s₂, s₃, s₄, s₅, s₆, s₇].map UInt16.toNat)

/-! ## Reading -/

/-- A byte of a dotted quad: one to three digits without a leading zero. -/
def readOctet (s : List Char) : Option Nat :=
  if s.length ≤ 3 ∧ (s.length ≤ 1 ∨ s.head? ≠ some '0') then
    (digits? 10 s).filter (· < 256)
  else none

/-- The four bytes of a dotted quad. -/
def readQuad (s : List Char) : Option (Nat × Nat × Nat × Nat) :=
  match splitAll '.' s with
  | [a, b, c, d] => do
    return (← readOctet a, ← readOctet b, ← readOctet c, ← readOctet d)
  | _ => none

/-- A group: one to four hexadecimal digits. -/
def readGroup (s : List Char) : Option Nat := if s.length ≤ 4 then digits? 16 s else none

/-- The groups that the pieces between colons stand for.  The last piece may be a dotted quad,
which stands for two groups. -/
def readGroups : List (List Char) → Option (List Nat)
  | [] => some []
  | [piece] =>
    match readQuad piece with
    | some (a, b, c, d) => some [a * 256 + b, c * 256 + d]
    | none => (readGroup piece).map ([·])
  | piece :: pieces => do
    let group ← readGroup piece
    let groups ← readGroups pieces
    return group :: groups

/-- The pieces between the colons of one side of `::`, which may be empty. -/
def pieces (s : List Char) : List (List Char) := if s.isEmpty then [] else splitAll ':' s

/-- What stands before and after the first `::`. -/
def splitGap : List Char → Option (List Char × List Char)
  | ':' :: ':' :: rest => some ([], rest)
  | c :: rest => (splitGap rest).map fun (before, after) => (c :: before, after)
  | [] => none

/-- The eight groups of an IPv6 text.  Before `::` only plain groups may stand, and the gap covers
at least one group. -/
def readEightGroups (s : List Char) : Option (List Nat) :=
  match splitGap s with
  | none => readGroups (splitAll ':' s)
  | some (before, after) => do
    let front ← (pieces before).mapM readGroup
    let back ← readGroups (pieces after)
    if front.length + back.length ≤ 7 then
      return front ++ List.replicate (8 - (front.length + back.length)) 0 ++ back
    else none

/-- **The address that a text denotes**: a dotted quad, or else an IPv6 text. -/
def read (s : List Char) : Option IpAddress :=
  match readQuad s with
  | some (a, b, c, d) => some (.v4 (.ofNat a) (.ofNat b) (.ofNat c) (.ofNat d))
  | none =>
    match readEightGroups s with
    | some [s₀, s₁, s₂, s₃, s₄, s₅, s₆, s₇] =>
      some (.v6 (.ofNat s₀) (.ofNat s₁) (.ofNat s₂) (.ofNat s₃)
        (.ofNat s₄) (.ofNat s₅) (.ofNat s₆) (.ofNat s₇))
    | _ => none

end IpAddress

/-! ## Socket addresses -/

/-- Whether a text denotes an address with a port, as a server is given to listen on: an IPv4
address and a port, or a bracketed IPv6 address, perhaps with a numeric scope, and a port. -/
def isSocketAddress (s : List Char) : Bool :=
  let isPort (p : List Char) : Bool := ((Text.digits? 10 p).filter (· < UInt16.size)).isSome
  match s with
  | '[' :: rest =>
    match Text.splitFirst ']' rest with
    | some (inside, ':' :: port) =>
      let (address, scope) := (Text.splitFirst '%' inside).getD (inside, ['0'])
      (IpAddress.readEightGroups address).any (·.length = 8)
        && ((Text.digits? 10 scope).filter (· < UInt32.size)).isSome && isPort port
    | _ => false
  | _ =>
    match Text.splitFirst ':' s with
    | some (address, port) => (IpAddress.readQuad address).isSome && isPort port
    | none => false

end FailoverStorage

/-!
# Numerals

Volume numbers, ports and prefix lengths are written in decimal without leading zeros.  Reading is
more lenient: one leading `+` and any number of leading zeros are accepted, nothing else is, and a
value beyond the bound of the field is refused.  Derived identifiers are written in hexadecimal of
a fixed width.
-/

namespace FailoverStorage.Text

/-! ## Writing -/

/-- The decimal digits of `n`. -/
def decimal (n : Nat) : String := String.ofList (Nat.toDigits 10 n)

/-- The last `width` lower-case hexadecimal digits of `n`, with leading zeros. -/
def hexadecimal : (width n : Nat) → List Char
  | 0, _ => []
  | width + 1, n => hexadecimal width (n / 16) ++ [Nat.digitChar (n % 16)]

/-! ## Reading -/

/-- The value of a hexadecimal digit of either case. -/
def hexDigit? (c : Char) : Option Nat :=
  if '0' ≤ c ∧ c ≤ '9' then some (c.toNat - '0'.toNat)
  else if 'a' ≤ c ∧ c ≤ 'f' then some (c.toNat - 'a'.toNat + 10)
  else if 'A' ≤ c ∧ c ≤ 'F' then some (c.toNat - 'A'.toNat + 10)
  else none

/-- The value of a digit below `base`. -/
def digit? (base : Nat) (c : Char) : Option Nat := (hexDigit? c).filter (· < base)

/-- Continues the number `acc` with the digits of a text, which holds nothing else. -/
def digitsFrom? (base acc : Nat) : List Char → Option Nat
  | [] => some acc
  | c :: rest => (digit? base c).bind fun d => digitsFrom? base (acc * base + d) rest

/-- The number that a non-empty run of digits denotes. -/
def digits? (base : Nat) : List Char → Option Nat
  | [] => none
  | s => digitsFrom? base 0 s

/-- The number that a numeral denotes: decimal digits after at most one `+`. -/
def numeral? : List Char → Option Nat
  | '+' :: rest => digits? 10 rest
  | s => digits? 10 s

/-- The number that a numeral denotes if it is at most `bound`. -/
def boundedNumeral? (bound : Nat) (s : List Char) : Option Nat := (numeral? s).filter (· ≤ bound)

/-- The byte that a numeral denotes. -/
def byte? (s : String) : Option UInt8 :=
  (boundedNumeral? (UInt8.size - 1) s.toList).map UInt8.ofNat

/-- The 16-bit number that a numeral denotes. -/
def word16? (s : String) : Option UInt16 :=
  (boundedNumeral? (UInt16.size - 1) s.toList).map UInt16.ofNat

/-- The 32-bit number that a numeral denotes. -/
def word32? (s : String) : Option UInt32 :=
  (boundedNumeral? (UInt32.size - 1) s.toList).map UInt32.ofNat

end FailoverStorage.Text

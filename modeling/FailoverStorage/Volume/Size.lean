import FailoverStorage.Error
import FailoverStorage.Text.Binary64
import FailoverStorage.Text.Blank
import FailoverStorage.Text.UpperCase

/-!
# Sizes

A size is written as a decimal with a unit (`2G`, `512MiB`, `1.5 Ki`, or plain bytes) and counts in
whole KiB, rounded up.  The decimal is a binary64 number and the product with the unit is cut to 64
bits of bytes, so very large sizes all mean the largest one.
-/

namespace FailoverStorage.Size

open Text

/-- The bytes of a unit, written in upper case. -/
def unitBytes? (unit : String) : Option Nat :=
  if unit ∈ ["", "B"] then some 1
  else if unit ∈ ["K", "KB", "KI", "KIB"] then some (Nat.pow 1024 1)
  else if unit ∈ ["M", "MB", "MI", "MIB"] then some (Nat.pow 1024 2)
  else if unit ∈ ["G", "GB", "GI", "GIB"] then some (Nat.pow 1024 3)
  else if unit ∈ ["T", "TB", "TI", "TIB"] then some (Nat.pow 1024 4)
  else if unit ∈ ["P", "PB", "PI", "PIB"] then some (Nat.pow 1024 5)
  else none

/-- The fraction that a decimal denotes: digits with at most one point among them and at least one
digit. -/
def decimalFraction? (s : List Char) : Option (Nat × Nat) :=
  let whole := s.takeWhile (· ≠ '.')
  let decimals := (s.dropWhile (· ≠ '.')).drop 1
  (digits? 10 (whole ++ decimals)).map fun n => (n, Nat.pow 10 decimals.length)

/-- The bytes that a decimal of a unit amounts to: the decimal in binary64, the product cut to a
whole number of at most 64 bits. -/
def bytes (decimal : Nat × Nat) (unit : Nat) : Nat :=
  let (num, den) := Binary64.roundTo decimal.1 decimal.2
  min (num * unit / den) (UInt64.size - 1)

/-- **Reads a size in KiB.**  The decimal is the longest beginning of digits and points, and the
unit is the rest; a decimal that is none is reported before an unknown unit. -/
def parse (s : String) : Except Error UInt64 :=
  let t := trim s.toList
  let isDecimal (c : Char) : Bool := ('0' ≤ c && c ≤ '9') || c = '.'
  let unit := trim (t.dropWhile isDecimal)
  if t.isEmpty then .error (.validation "empty size string")
  else match decimalFraction? (t.takeWhile isDecimal) with
    | none => .error (.validation ("invalid size: " ++ String.ofList t))
    | some decimal =>
      match (upperAsciiText? unit).bind fun u => unitBytes? (String.ofList u) with
      | none => .error (.validation ("unknown size unit: " ++ String.ofList unit))
      | some factor => .ok (.ofNat ((bytes decimal factor + 1023) / 1024))

/-- A number of KiB in the largest unit up to TiB that divides it. -/
def text (kib : Nat) : String :=
  let whole (n : Nat) : Bool := 1024 ≤ n && n % 1024 = 0
  let scale : Nat × String :=
    if whole kib then
      if whole (kib / 1024) then
        if whole (kib / 1024 / 1024) then (kib / 1024 / 1024 / 1024, "TiB")
        else (kib / 1024 / 1024, "GiB")
      else (kib / 1024, "MiB")
    else (kib, "KiB")
  decimal scale.1 ++ scale.2

end FailoverStorage.Size

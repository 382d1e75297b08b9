/-!
# Binary floating point without floats

Sizes are computed in binary64.  The few facts that show in results need no floating-point type:
a decimal is read as the fraction it denotes, `roundTo` rounds a fraction to a significand of a
given number of bits with ties to the even one, and `overflows` tells which decimals lie beyond the
largest finite value.
-/

namespace FailoverStorage.Text.Binary64

/-- The bits of a significand. -/
def precision : Nat := 53

/-! ## Rounding -/

/-- `num / den` rounded to the nearest natural number, a tie to the even one. -/
def roundHalfEven (num den : Nat) : Nat :=
  let q := num / den
  let twice := 2 * (num % den)
  if twice < den then q
  else if den < twice then q + 1
  else q + q % 2

/-- **`num / den` rounded to `precision` significant bits**, as a fraction again.  The numerator is
scaled up until the quotient has more than `precision` bits, the excess bits are rounded away, and
the result is scaled back. -/
def roundTo (num den : Nat) : Nat × Nat :=
  if num = 0 then (0, 1)
  else
    let scale := den <<< precision
    let up := scale.log2 + 1 - num.log2
    let num := num <<< up
    let excess := (num / den).log2 + 1 - precision
    let significand := roundHalfEven num (den <<< excess)
    (significand <<< excess, 1 <<< up)

/-! ## Overflow -/

/-- The least value that rounds to infinity: half a unit in the last place above the largest
finite value. -/
def infinityThreshold : Nat := (1 <<< 1024) - (1 <<< 970)

/-- **Whether a decimal is infinite in binary64**: `digits` are the decimal digits of its
significand and `exponent` is the power of ten that scales them.  Far exponents are decided by the
number of digits alone, so that no huge power is computed. -/
def overflows (digits : List Char) (exponent : Int) : Bool :=
  let significant := digits.dropWhile (· = '0')
  let magnitude := exponent + significant.length
  if significant.isEmpty || magnitude ≤ 300 then false
  else if 310 < magnitude then true
  else
    let value := significant.foldl (fun acc c => acc * 10 + (c.toNat - '0'.toNat)) 0
    match exponent with
    | .ofNat e => decide (infinityThreshold ≤ value * Nat.pow 10 e)
    | .negSucc e => decide (infinityThreshold * Nat.pow 10 (e + 1) ≤ value)

end FailoverStorage.Text.Binary64

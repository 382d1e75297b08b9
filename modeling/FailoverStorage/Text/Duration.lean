import FailoverStorage.Text.Numeral

/-!
# Durations

Waiting times are counted in milliseconds.  A duration of at least a second is written in seconds
with as many decimals as it needs, a shorter one in whole milliseconds, and none at all as `0ns`.
-/

namespace FailoverStorage.Text

/-- Three decimals of a fraction of thousandths, without zeros at the end. -/
def thousandths (n : Nat) : List Char :=
  let digits := [n / 100 % 10, n / 10 % 10, n % 10].map Nat.digitChar
  (digits.reverse.dropWhile (· = '0')).reverse

/-- **The text of a duration in milliseconds.** -/
def duration (ms : Nat) : String :=
  if ms = 0 then "0ns"
  else if ms < 1000 then decimal ms ++ "ms"
  else if ms % 1000 = 0 then decimal (ms / 1000) ++ "s"
  else decimal (ms / 1000) ++ "." ++ String.ofList (thousandths (ms % 1000)) ++ "s"

end FailoverStorage.Text

import FailoverStorage.Text.Numeral
import Mathlib.Tactic.Common
import Mathlib.Tactic.IntervalCases

/-!
# Reading back what was written in digits

The digits of a number denote it again, in every base that has digits (`digits?_toDigits`), so a
decimal numeral reads back as its number wherever the field is wide enough (`word32?_decimal` and
its kin).  A fixed number of hexadecimal digits keeps a number that needs no more of them.
-/

namespace FailoverStorage.Text

/-! ## Single digits -/

lemma hexDigit?_digitChar : ∀ d < 16, hexDigit? (Nat.digitChar d) = some d := by decide

lemma hexDigit?_toUpper_digitChar : ∀ d < 16, hexDigit? (Nat.digitChar d).toUpper = some d := by
  decide

lemma digit?_digitChar {base d : Nat} (hb : base ≤ 16) (hd : d < base) :
    digit? base (Nat.digitChar d) = some d := by
  rw [digit?, hexDigit?_digitChar d (by omega)]
  simp [hd]

/-! ## Runs of digits -/

lemma digitsFrom?_append (base acc : Nat) (s t : List Char) :
    digitsFrom? base acc (s ++ t)
      = (digitsFrom? base acc s).bind fun n => digitsFrom? base n t := by
  induction s generalizing acc with
  | nil => rfl
  | cons c rest ih =>
      simp only [List.cons_append, digitsFrom?, Option.bind_assoc, ih]

/-- The digits of a number, read in their base, denote it. -/
lemma digitsFrom?_toDigits {base : Nat} (h2 : 1 < base) (h16 : base ≤ 16) (n : Nat) :
    digitsFrom? base 0 (Nat.toDigits base n) = some n := by
  induction n using Nat.strong_induction_on with
  | _ n ih =>
      rw [Nat.toDigits_eq_if h2]
      split
      · rename_i hn
        simp [digitsFrom?, digit?_digitChar h16 hn]
      · rename_i hn
        have hdiv : n / base < n := Nat.div_lt_self (by omega) h2
        rw [digitsFrom?_append, ih _ hdiv, Option.bind_some]
        simp only [digitsFrom?, digit?_digitChar h16 (Nat.mod_lt n (by omega)), Option.bind_some]
        rw [Nat.mul_comm, Nat.div_add_mod]

/-- **The digits of a number denote it.** -/
lemma digits?_toDigits {base : Nat} (h2 : 1 < base) (h16 : base ≤ 16) (n : Nat) :
    digits? base (Nat.toDigits base n) = some n := by
  have h := digitsFrom?_toDigits h2 h16 n
  cases hd : Nat.toDigits base n with
  | nil => exact absurd hd Nat.toDigits_ne_nil
  | cons c rest => rwa [hd] at h

/-- The characters of a number are digits of its base. -/
lemma mem_toDigits {base : Nat} (h2 : 1 < base) {n : Nat} {c : Char}
    (h : c ∈ Nat.toDigits base n) : ∃ d < base, c = Nat.digitChar d := by
  induction n using Nat.strong_induction_on with
  | _ n ih =>
      rw [Nat.toDigits_eq_if h2] at h
      split at h
      · rename_i hn
        exact ⟨n, hn, by simpa using h⟩
      · rename_i hn
        rcases List.mem_append.1 h with h | h
        · exact ih _ (Nat.div_lt_self (by omega) h2) h
        · exact ⟨n % base, Nat.mod_lt n (by omega), by simpa using h⟩

/-! ## Numerals -/

lemma toList_decimal (n : Nat) : (decimal n).toList = Nat.toDigits 10 n := by
  rw [decimal, String.toList_ofList]

/-- A decimal numeral holds digits only. -/
lemma isDigit_of_mem_decimal {n : Nat} {c : Char} (h : c ∈ (decimal n).toList) :
    c.isDigit = true := by
  rw [toList_decimal] at h
  exact Nat.isDigit_of_mem_toDigits (by decide) (by decide) h

/-- A character that is no digit is not in a decimal numeral. -/
lemma notMem_decimal {c : Char} (hc : c.isDigit = false) (n : Nat) : c ∉ (decimal n).toList := by
  intro hmem
  rw [isDigit_of_mem_decimal hmem] at hc
  cases hc

lemma decimal_ne_empty (n : Nat) : decimal n ≠ "" := by
  intro h
  have := toList_decimal n
  rw [h] at this
  exact Nat.toDigits_ne_nil this.symm

/-- **A decimal numeral denotes its number.** -/
lemma numeral?_decimal (n : Nat) : numeral? (decimal n).toList = some n := by
  have hdigits : digits? 10 (decimal n).toList = some n := by
    rw [toList_decimal, digits?_toDigits (by decide) (by decide)]
  cases hd : (decimal n).toList with
  | nil => rw [hd] at hdigits; exact hdigits
  | cons c rest =>
      have hc : c ≠ '+' := by
        rintro rfl
        exact notMem_decimal rfl n (hd ▸ List.mem_cons_self)
      rw [hd] at hdigits
      unfold numeral?
      split
      · rename_i heq
        exact absurd (List.cons.inj heq).1 hc
      · exact hdigits

/-- Different numbers have different numerals. -/
lemma decimal_inj {m n : Nat} (h : decimal m = decimal n) : m = n := by
  have hm := numeral?_decimal m
  rw [h, numeral?_decimal] at hm
  exact (Option.some.inj hm).symm

lemma boundedNumeral?_decimal {bound n : Nat} (h : n ≤ bound) :
    boundedNumeral? bound (decimal n).toList = some n := by
  rw [boundedNumeral?, numeral?_decimal]
  simp [h]

lemma byte?_of_lt {s : String} {n : Nat} (hn : numeral? s.toList = some n) (h : n < UInt8.size) :
    byte? s = some (.ofNat n) := by
  have hbound : n ≤ UInt8.size - 1 := Nat.le_pred_of_lt h
  rw [byte?, boundedNumeral?, hn, Option.filter_some, if_pos (decide_eq_true hbound),
    Option.map_some]

lemma byte?_eq_none {s : String} {n : Nat} (hn : numeral? s.toList = some n)
    (h : UInt8.size ≤ n) : byte? s = none := by
  have hbound : ¬ n ≤ UInt8.size - 1 := Nat.not_le.2 (Nat.lt_of_lt_of_le (by decide) h)
  rw [byte?, boundedNumeral?, hn, Option.filter_some, if_neg (by simpa using hbound),
    Option.map_none]

@[simp] lemma byte?_decimal (n : UInt8) : byte? (decimal n.toNat) = some n := by
  rw [byte?_of_lt (numeral?_decimal n.toNat) n.toNat_lt, UInt8.ofNat_toNat]

@[simp] lemma word16?_decimal (n : UInt16) : word16? (decimal n.toNat) = some n := by
  have h : n.toNat ≤ UInt16.size - 1 := Nat.le_pred_of_lt n.toNat_lt
  rw [word16?, boundedNumeral?_decimal h]
  simp

@[simp] lemma word32?_decimal (n : UInt32) : word32? (decimal n.toNat) = some n := by
  have h : n.toNat ≤ UInt32.size - 1 := Nat.le_pred_of_lt n.toNat_lt
  rw [word32?, boundedNumeral?_decimal h]
  simp

/-! ## Hexadecimal of a fixed width -/

/-- The last digits of a number, in either case, denote what is left of it. -/
lemma digitsFrom?_hexadecimal_toUpper (width n acc : Nat) :
    digitsFrom? 16 acc ((hexadecimal width n).map Char.toUpper)
      = some (acc * Nat.pow 16 width + n % Nat.pow 16 width) := by
  induction width generalizing n acc with
  | zero => simp [hexadecimal, digitsFrom?, Nat.mod_one]
  | succ width ih =>
      have hd : digit? 16 (Nat.digitChar (n % 16)).toUpper = some (n % 16) := by
        have hlt : n % 16 < 16 := Nat.mod_lt n (by decide)
        rw [digit?, hexDigit?_toUpper_digitChar _ hlt]
        simp [hlt]
      rw [hexadecimal, List.map_append, digitsFrom?_append, ih, Option.bind_some]
      simp only [List.map_cons, List.map_nil, digitsFrom?, hd, Option.bind_some]
      have hpow : Nat.pow 16 (width + 1) = 16 * Nat.pow 16 width := Nat.mul_comm _ 16
      rw [hpow, Nat.mod_mul, Nat.mul_left_comm]
      congr 1
      omega

end FailoverStorage.Text

/-!
# White space

Sizes, agent lines and controller lists are cut at white space, and white space means every
character with the Unicode property `White_Space`, not just the ASCII ones.  This file holds that
class and the two cuts built on it: `trim` takes blanks off both ends, `words` splits at every run
of blanks.
-/

namespace FailoverStorage.Text

/-- **The Unicode property `White_Space`.** -/
def isBlank (c : Char) : Bool :=
  let n := c.toNat
  (0x09 ≤ n && n ≤ 0x0D) || n = 0x20 || n = 0x85 || n = 0xA0 || n = 0x1680
    || (0x2000 ≤ n && n ≤ 0x200A) || n = 0x2028 || n = 0x2029 || n = 0x202F || n = 0x205F
    || n = 0x3000

/-- Every character that core calls white space is blank. -/
theorem isBlank_of_isWhitespace {c : Char} (h : c.isWhitespace = true) : isBlank c = true := by
  simp only [Char.isWhitespace, Bool.or_eq_true, decide_eq_true_eq] at h
  rcases h with ((rfl | rfl) | rfl) | rfl <;> decide

/-! ## Trimming -/

/-- The text without blanks at its end. -/
def trimEnd (s : List Char) : List Char := (s.reverse.dropWhile isBlank).reverse

/-- The text without blanks at either end. -/
def trim (s : List Char) : List Char := trimEnd (s.dropWhile isBlank)

/-! ## Words -/

/-- The words of a text whose current word, read so far, is `current`. -/
def wordsFrom (current : List Char) : List Char → List (List Char)
  | [] => if current.isEmpty then [] else [current]
  | c :: rest =>
    if isBlank c then
      if current.isEmpty then wordsFrom [] rest else current :: wordsFrom [] rest
    else wordsFrom (current ++ [c]) rest

/-- **The words of a text**: its longest runs of characters that are not blank, in order. -/
def words (s : List Char) : List (List Char) := wordsFrom [] s

end FailoverStorage.Text

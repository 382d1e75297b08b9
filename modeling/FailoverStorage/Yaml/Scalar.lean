import FailoverStorage.Text.Binary64
import FailoverStorage.Text.Numeral
import FailoverStorage.Text.Split

/-!
# YAML scalars

A text is written plainly in YAML where it can be read back as the same text.  A text that would
read as another kind of value stands between single quotes, one that a plain scalar cannot hold
between single or double quotes, and one of several lines as a literal block.
-/

namespace FailoverStorage.Yaml

open Text

/-! ## What a plain text would read as -/

/-- Whether a text is a number with digits of a base after `mark`. -/
def isBased (mark : String) (base bits : Nat) (s : List Char) : Bool :=
  match dropStart mark.toList s with
  | some digits => ((digits? base digits).filter (· < Nat.pow 2 bits)).isSome
  | none => false

/-- Whether a text is a decimal number with a leading zero, which YAML leaves open. -/
def hasLeadingZero (s : List Char) : Bool :=
  let s := match s with
    | '+' :: rest => rest
    | '-' :: rest => rest
    | s => s
  s.length > 1 && s.head? = some '0' && s.all Char.isDigit

/-- Whether a text without sign is a whole number. -/
def isWhole (s : List Char) : Bool :=
  isBased "0x" 16 128 s || isBased "0o" 8 128 s || isBased "0b" 2 128 s
    || (!hasLeadingZero s && ((digits? 10 s).filter (· < Nat.pow 2 128)).isSome)

/-- Whether a text without sign is a finite decimal: digits with an optional point and an optional
exponent. -/
def isDecimal (s : List Char) : Bool :=
  let mantissa := s.takeWhile fun c => c ≠ 'e' ∧ c ≠ 'E'
  let whole := mantissa.takeWhile (· ≠ '.')
  let decimals := (mantissa.dropWhile (· ≠ '.')).drop 1
  let exponent : Option Int := match s.dropWhile fun c => c ≠ 'e' ∧ c ≠ 'E' with
    | [] => some 0
    | _ :: '-' :: digits => (digits? 10 digits).map fun n => -(n : Int)
    | _ :: digits => (numeral? digits).map Int.ofNat
  match exponent with
  | some e =>
    (digits? 10 (whole ++ decimals)).isSome
      && !Binary64.overflows (whole ++ decimals) (e - decimals.length)
  | none => false

/-- **Whether a plain text would read as something else than a text**: nothing, a truth value or a
number, or as something that is left open. -/
def readsOtherwise (s : String) : Bool :=
  let unsigned := match s.toList with
    | '+' :: rest => rest
    | '-' :: rest => rest
    | chars => chars
  s ∈ ["", "~", "null", "Null", "NULL", "true", "True", "TRUE", "false", "False", "FALSE",
      ".nan", ".NaN", ".NAN"]
    || String.ofList unsigned ∈ [".inf", ".Inf", ".INF"]
    || hasLeadingZero s.toList || isWhole unsigned || isDecimal unsigned

/-! ## What a plain scalar can hold -/

/-- Whether a character breaks a line. -/
def isBreak (c : Char) : Bool := c = '\n' || c = '\r' || c = '\x85' || c = '\u2028' || c = '\u2029'

/-- Whether a character can be seen in a text. -/
def isPrintable (c : Char) : Bool :=
  let n := c.toNat
  c = '\n' || (0x20 ≤ n && n ≤ 0x7E) || n = 0x85 || (0xA0 ≤ n && n ≤ 0xD7FF)
    || (0xE000 ≤ n && n ≤ 0xFFFD && n ≠ 0xFEFF) || 0x10000 ≤ n

/-- Whether a space, a tab or a line break, or nothing, comes next. -/
def endsHere : List Char → Bool
  | [] => true
  | c :: _ => c = ' ' || c = '\t' || isBreak c

/-- Whether the rest of a text means something in YAML; `previous` stands before it. -/
def hasIndicator (previous : Char) : List Char → Bool
  | [] => false
  | c :: rest =>
    (c = ':' && endsHere rest) || (c = '#' && endsHere [previous]) || hasIndicator c rest

/-- Whether a text means something in YAML. -/
def hasMeaning : List Char → Bool
  | [] => false
  | c :: rest =>
    "#,[]\x7b\x7d&*!|>'\"%@\x60".toList.contains c
      || ("?:-".toList.contains c && endsHere rest)
      || (dropStart "---".toList (c :: rest)).isSome || (dropStart "...".toList (c :: rest)).isSome
      || hasIndicator c rest

/-- Whether a text begins or ends with a space. -/
def hasOuterSpace (s : List Char) : Bool := s.head? = some ' ' || s.getLast? = some ' '

/-- Whether a space stands directly before or after a line break. -/
def hasSpaceAtBreak (before : Char → Bool) (after : Char → Bool) : List Char → Bool
  | a :: b :: rest => (before a && after b) || hasSpaceAtBreak before after (b :: rest)
  | _ => false

/-- Whether a text needs double quotes. -/
def needsEscapes (s : List Char) : Bool :=
  !s.all isPrintable || hasSpaceAtBreak (· = ' ') isBreak s

/-! ## Quoted forms -/

/-- A text between single quotes. -/
def singleQuoted (s : List Char) : List Char :=
  '\'' :: s.flatMap (fun c => if c = '\'' then ['\'', '\''] else [c]) ++ ['\'']

/-- The letter of a short escape. -/
def escapeLetter? (c : Char) : Option Char :=
  [('\x00', '0'), ('\x07', 'a'), ('\x08', 'b'), ('\t', 't'), ('\n', 'n'), ('\x0b', 'v'),
    ('\x0c', 'f'), ('\r', 'r'), ('\x1b', 'e'), ('"', '"'), ('\\', '\\'), ('\x85', 'N'),
    ('\xa0', '_'), ('\u2028', 'L'), ('\u2029', 'P')].lookup c

/-- A character as it stands between double quotes. -/
def escaped (c : Char) : List Char :=
  let code (mark : Char) (width : Nat) : List Char :=
    '\\' :: mark :: (hexadecimal width c.toNat).map Char.toUpper
  if isPrintable c && !isBreak c && c ≠ '"' && c ≠ '\\' then [c]
  else match escapeLetter? c with
    | some letter => ['\\', letter]
    | none =>
      if c.toNat ≤ 0xFF then code 'x' 2
      else if c.toNat ≤ 0xFFFF then code 'u' 4
      else code 'U' 8

/-- A text between double quotes. -/
def doubleQuoted (s : List Char) : List Char := '"' :: s.flatMap escaped ++ ['"']

/-! ## Literal blocks -/

/-- The marks of a literal block: how far it is indented where that is not plain to see, and what
becomes of its last line breaks. -/
def blockMarks (s : List Char) : List Char :=
  let indent := match s with
    | c :: _ => if c = ' ' ∨ isBreak c then ['2'] else []
    | [] => []
  let chomp := match s.reverse with
    | c :: d :: _ => if isBreak c then if isBreak d then ['+'] else [] else ['-']
    | [c] => if isBreak c then ['+'] else ['-']
    | [] => ['-']
  indent ++ chomp

/-- A text as a literal block whose lines are indented by `indent`. -/
def literal (indent : Nat) (s : List Char) : List Char :=
  let lines := splitAll '\n' s
  let lines := if s.getLast? = some '\n' then lines.dropLast else lines
  '|' :: blockMarks s ++ lines.flatMap fun line =>
    '\n' :: if line.isEmpty then [] else List.replicate indent ' ' ++ line

/-- **A text as a scalar**, in a block whose lines are indented by `indent`. -/
def scalar (indent : Nat) (text : String) : String :=
  let s := text.toList
  String.ofList <|
    if '\n' ∈ s then
      if needsEscapes s || s.getLast? = some ' ' then doubleQuoted s else literal indent s
    else if readsOtherwise text then
      if needsEscapes s then doubleQuoted s else singleQuoted s
    else if needsEscapes s then doubleQuoted s
    else if hasMeaning s || hasOuterSpace s || s.any isBreak then singleQuoted s
    else s

end FailoverStorage.Yaml

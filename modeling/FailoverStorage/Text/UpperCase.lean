/-!
# Upper-casing

Units of sizes are compared after full Unicode upper-casing, in which one character may become
several.  A unit is an ASCII text, so only characters whose upper-case form is ASCII can matter;
`upperAscii?` is the upper-casing on exactly those.
-/

namespace FailoverStorage.Text

/-- **Full upper-casing where the result is ASCII**: the ASCII characters themselves, the dotless i,
the long s, the sharp s and the Latin ligatures.  All other characters have an upper-case form with
a character outside ASCII. -/
def upperAscii? (c : Char) : Option (List Char) :=
  if c.toNat < 0x80 then some [c.toUpper]
  else match c.toNat with
    | 0x00DF => some ['S', 'S']
    | 0x0131 => some ['I']
    | 0x017F => some ['S']
    | 0xFB00 => some ['F', 'F']
    | 0xFB01 => some ['F', 'I']
    | 0xFB02 => some ['F', 'L']
    | 0xFB03 => some ['F', 'F', 'I']
    | 0xFB04 => some ['F', 'F', 'L']
    | 0xFB05 => some ['S', 'T']
    | 0xFB06 => some ['S', 'T']
    | _ => none

/-- The upper-case form of a text, if it is ASCII. -/
def upperAsciiText? : List Char → Option (List Char)
  | [] => some []
  | c :: rest => do
    let upper ← upperAscii? c
    let rest ← upperAsciiText? rest
    return upper ++ rest

end FailoverStorage.Text

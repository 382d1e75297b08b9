import FailoverStorage.Text.Numeral

/-!
# Percent-encoding

A path carries arbitrary text by writing bytes as a percent sign and two hexadecimal digits.  Texts
that stand for an object's name in a path are encoded byte by byte except for letters, digits and
four marks.  Decoding leaves a percent sign alone that begins no escape, and fails where the bytes
are not UTF-8.
-/

namespace FailoverStorage.Http

open Text

/-! ## Decoding -/

/-- The bytes that a percent-encoded text stands for. -/
def percentBytes : List UInt8 → List UInt8
  | 0x25 :: a :: b :: rest =>
    match digits? 16 [Char.ofNat a.toNat, Char.ofNat b.toNat] with
    | some n => UInt8.ofNat n :: percentBytes rest
    | none => 0x25 :: percentBytes (a :: b :: rest)
  | c :: rest => c :: percentBytes rest
  | [] => []

/-- **The text that a percent-encoded text stands for.** -/
def percentDecode? (s : String) : Option String :=
  String.fromUTF8? ⟨(percentBytes s.toUTF8.toList).toArray⟩

/-! ## Encoding -/

/-- Whether a byte stands for itself. -/
def isUnreserved (b : UInt8) : Bool :=
  let c := Char.ofNat b.toNat
  b < 0x80 && (c.isAlphanum || c = '-' || c = '_' || c = '.' || c = '~')

/-- One byte as it is encoded. -/
def percentByte (b : UInt8) : List Char :=
  if isUnreserved b then [Char.ofNat b.toNat]
  else '%' :: (hexadecimal 2 b.toNat).map Char.toUpper

/-- **A text as it stands in a path.** -/
def percentEncode (s : String) : String :=
  String.ofList (s.toUTF8.toList.flatMap percentByte)

end FailoverStorage.Http

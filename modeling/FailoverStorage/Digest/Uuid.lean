import FailoverStorage.Digest.Sha1
import FailoverStorage.Text.Numeral

/-!
# Name-based identifiers

A UUID of version 5 is the SHA-1 digest of a namespace and a name, cut to sixteen bytes, with the
version and the variant written over it.  Serial numbers, file system ids and namespace ids of
endpoints are such identifiers or their leading bits.
-/

namespace FailoverStorage

/-- A UUID, as its sixteen bytes. -/
structure Uuid where
  bytes : List UInt8

namespace Uuid

/-- The UUID whose bytes are all zero. -/
def zero : Uuid := ⟨List.replicate 16 0⟩

/-- **The version 5 UUID of a name below a namespace.**  Byte 6 carries the version in its upper
four bits, byte 8 the variant in its upper two. -/
def ofName (space : Uuid) (name : String) : Uuid :=
  let digest := (Sha1.digest (space.bytes ++ name.toUTF8.toList)).take 16
  ⟨(digest.modify 6 fun b => (b &&& 0x0F) ||| 0x50).modify 8 fun b => (b &&& 0x3F) ||| 0x80⟩

/-- The identifier derived from a name for one domain of names: the domain names the namespace. -/
def derived (domain name : String) : Uuid := ofName (ofName zero domain) name

/-- The number that the first `count` bytes denote, the highest first. -/
def leading (count : Nat) (u : Uuid) : Nat :=
  (u.bytes.take count).foldl (fun acc b => acc * 256 + b.toNat) 0

/-- The hyphenated text: groups of 4, 2, 2, 2 and 6 bytes in lower-case hexadecimal. -/
def text (u : Uuid) : String :=
  let digits := Text.hexadecimal 32 (u.leading 16)
  let group (start count : Nat) : List Char := (digits.drop start).take count
  String.ofList
    (group 0 8 ++ '-' :: group 8 4 ++ '-' :: group 12 4 ++ '-' :: group 16 4 ++ '-' :: group 20 12)

end Uuid

end FailoverStorage

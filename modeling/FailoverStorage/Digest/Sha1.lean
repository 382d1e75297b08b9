/-!
# SHA-1

Identifiers that initiators see are derived from names by hashing, so that they survive a failover
and a recreation.  This is the hash: a message of bytes is padded to blocks of 64 bytes, each block
is expanded to eighty words, and eighty rounds mix them into a state of five words.
-/

namespace FailoverStorage.Sha1

/-- The five words of the state. -/
structure State where
  a : UInt32
  b : UInt32
  c : UInt32
  d : UInt32
  e : UInt32

/-- The state before the first block. -/
def initial : State := ⟨0x67452301, 0xEFCDAB89, 0x98BADCFE, 0x10325476, 0xC3D2E1F0⟩

/-- The word turned left by `n` bits. -/
def rotate (x : UInt32) (n : UInt32) : UInt32 := (x <<< n) ||| (x >>> (32 - n))

/-! ## Padding and expansion -/

/-- The eight bytes of a 64-bit number, the highest first. -/
def bigEndian64 (n : Nat) : List UInt8 :=
  [56, 48, 40, 32, 24, 16, 8, 0].map fun shift => UInt8.ofNat (n >>> shift)

/-- The message followed by one set bit, zeros, and its length in bits, up to whole blocks. -/
def pad (message : List UInt8) : List UInt8 :=
  let zeros := (119 - message.length % 64) % 64
  message ++ 0x80 :: List.replicate zeros 0 ++ bigEndian64 (8 * message.length)

/-- The words of a list of bytes, four bytes each, the highest first. -/
def toWords : List UInt8 → List UInt32
  | p :: q :: r :: s :: rest =>
    ((p.toUInt32 <<< 24) ||| (q.toUInt32 <<< 16) ||| (r.toUInt32 <<< 8) ||| s.toUInt32)
      :: toWords rest
  | _ => []

/-- Appends `n` words to a schedule, each made of four earlier ones. -/
def expand : Nat → Array UInt32 → Array UInt32
  | 0, w => w
  | n + 1, w =>
    let t := w.size
    let word (back : Nat) : UInt32 := w.getD (t - back) 0
    expand n (w.push (rotate (word 3 ^^^ word 8 ^^^ word 14 ^^^ word 16) 1))

/-! ## Rounds -/

/-- The mixing function and the constant of round `t`. -/
def mix (t : Nat) (b c d : UInt32) : UInt32 × UInt32 :=
  if t < 20 then ((b &&& c) ||| (~~~b &&& d), 0x5A827999)
  else if t < 40 then (b ^^^ c ^^^ d, 0x6ED9EBA1)
  else if t < 60 then ((b &&& c) ||| (b &&& d) ||| (c &&& d), 0x8F1BBCDC)
  else (b ^^^ c ^^^ d, 0xCA62C1D6)

/-- The rounds from `t` on, one for each word of the schedule. -/
def rounds (t : Nat) (s : State) : List UInt32 → State
  | [] => s
  | w :: rest =>
    let (f, k) := mix t s.b s.c s.d
    rounds (t + 1) ⟨rotate s.a 5 + f + s.e + k + w, s.a, rotate s.b 30, s.c, s.d⟩ rest

/-- The state after one block of sixteen words. -/
def absorb (s : State) (block : List UInt32) : State :=
  let r := rounds 0 s (expand 64 block.toArray).toList
  ⟨s.a + r.a, s.b + r.b, s.c + r.c, s.d + r.d, s.e + r.e⟩

/-- The state after `n` blocks of a list of words. -/
def absorbAll : Nat → State → List UInt32 → State
  | 0, s, _ => s
  | n + 1, s, words => absorbAll n (absorb s (words.take 16)) (words.drop 16)

/-- The four bytes of a word, the highest first. -/
def wordBytes (w : UInt32) : List UInt8 :=
  [(w >>> 24).toUInt8, (w >>> 16).toUInt8, (w >>> 8).toUInt8, w.toUInt8]

/-- **The twenty bytes of the SHA-1 digest of a message.** -/
def digest (message : List UInt8) : List UInt8 :=
  let words := toWords (pad message)
  let s := absorbAll (words.length / 16) initial words
  [s.a, s.b, s.c, s.d, s.e].flatMap wordBytes

end FailoverStorage.Sha1

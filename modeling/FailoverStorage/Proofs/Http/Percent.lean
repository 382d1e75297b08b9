import FailoverStorage.Http.Percent
import FailoverStorage.Proofs.Text.Numeral

/-!
# Encoded texts are told apart

A text that is percent-encoded decodes to itself (`percentDecode?_percentEncode`), so different
names stand in different paths (`percentEncode_inj`).  No slash is left in an encoded text, so a
name is one segment of a path (`ascii_percentEncode`).
-/

namespace FailoverStorage.Http

open Text

/-! ## Bytes of ASCII texts -/

lemma toList_loop_eq (bs : ByteArray) (i : Nat) (acc : List UInt8) :
    ByteArray.toList.loop bs i acc = acc.reverse ++ bs.data.toList.drop i := by
  fun_induction ByteArray.toList.loop bs i acc with
  | case1 i acc hlt ih =>
      have hi : i < bs.data.toList.length := by simpa using hlt
      have hget : bs.get! i = bs.data.toList[i] := by
        rw [ByteArray.get!, Array.getElem_toList]
        exact getElem!_pos bs.data i _
      rw [ih, List.drop_eq_getElem_cons hi, List.reverse_cons, List.append_assoc, hget]
      rfl
  | case2 i acc hge =>
      have hi : bs.data.toList.length ≤ i := by simpa using hge
      rw [List.drop_eq_nil_of_le hi, List.append_nil]

lemma toList_eq (bs : ByteArray) : bs.toList = bs.data.toList := toList_loop_eq bs 0 []

lemma fromUTF8?_toUTF8_toList (s : String) :
    String.fromUTF8? ⟨s.toUTF8.toList.toArray⟩ = some s := by
  rw [toList_eq, Array.toArray_toList, String.toUTF8_eq_toByteArray]
  exact dif_pos s.isValidUTF8

/-- An ASCII text has one byte for each character. -/
lemma toList_toUTF8_ofList {s : List Char} (h : ∀ c ∈ s, c.toNat < 0x80) :
    (String.ofList s).toUTF8.toList = s.map fun c => UInt8.ofNat c.toNat := by
  rw [toList_eq, String.toUTF8_eq_toByteArray, String.toByteArray_ofList, List.utf8Encode,
    List.toList_data_toByteArray]
  induction s with
  | nil => rfl
  | cons c rest ih =>
      have hc : c.val.toNat ≤ 0x7f := Nat.le_of_lt_succ (h c List.mem_cons_self)
      rw [List.flatMap_cons, ih fun d hd => h d (List.mem_cons_of_mem _ hd), String.utf8EncodeChar,
        if_pos hc]
      rfl

/-! ## Single bytes -/

lemma toNat_ofNat_ascii : ∀ n < 0x80, (Char.ofNat n).toNat = n := by decide

lemma percentByte_cases (b : UInt8) :
    (percentByte b = [Char.ofNat b.toNat] ∧ b.toNat < 0x80 ∧ isUnreserved b = true)
      ∨ percentByte b = ['%', (Nat.digitChar (b.toNat / 16 % 16)).toUpper,
        (Nat.digitChar (b.toNat % 16)).toUpper] := by
  rw [percentByte]
  split
  · rename_i h
    have hlow : b < 0x80 := of_decide_eq_true (Bool.and_eq_true_iff.1 h).1
    exact .inl ⟨rfl, UInt8.lt_iff_toNat_lt.1 hlow, h⟩
  · exact .inr rfl

lemma toUpper_digitChar : ∀ d < 16, (Nat.digitChar d).toUpper.toNat < 0x80
    ∧ (Nat.digitChar d).toUpper ≠ '/' := by decide

lemma ascii_percentByte {b : UInt8} {c : Char} (h : c ∈ percentByte b) :
    c.toNat < 0x80 ∧ c ≠ '/' := by
  rcases percentByte_cases b with ⟨hchar, hlow, hkept⟩ | hescape
  · rw [hchar, List.mem_singleton] at h
    have hc : c.toNat = b.toNat := by rw [h, toNat_ofNat_ascii _ hlow]
    refine ⟨hc ▸ hlow, ?_⟩
    rintro rfl
    rw [show b = 0x2f from UInt8.toNat_inj.1 hc.symm] at hkept
    exact absurd hkept (by decide)
  · rw [hescape, List.mem_cons, List.mem_cons, List.mem_singleton] at h
    rcases h with rfl | rfl | rfl
    · decide
    · exact toUpper_digitChar _ (Nat.mod_lt _ (by decide))
    · exact toUpper_digitChar _ (Nat.mod_lt _ (by decide))

lemma percentBytes_cons {b : UInt8} (h : b ≠ 0x25) (rest : List UInt8) :
    percentBytes (b :: rest) = b :: percentBytes rest := by
  rw [percentBytes.eq_def]
  split
  · rename_i heq
    exact absurd (List.cons.inj heq).1 h
  · rename_i heq
    obtain ⟨rfl, rfl⟩ := List.cons.inj heq
    rfl
  · rename_i heq
    cases heq

/-- **An encoded byte is read back**, whatever comes after it. -/
lemma percentBytes_percentByte (b : UInt8) (rest : List UInt8) :
    percentBytes ((percentByte b).map (fun c => UInt8.ofNat c.toNat) ++ rest)
      = b :: percentBytes rest := by
  rcases percentByte_cases b with ⟨hchar, hlow, hkept⟩ | hescape
  · have hb : UInt8.ofNat (Char.ofNat b.toNat).toNat = b := by
      rw [toNat_ofNat_ascii _ hlow, UInt8.ofNat_toNat]
    rw [hchar, List.map_singleton, hb]
    refine percentBytes_cons ?_ rest
    rintro rfl
    exact absurd hkept (by decide)
  · have hbyte : ∀ c ∈ percentByte b, Char.ofNat (UInt8.ofNat c.toNat).toNat = c := by
      intro c hc
      have hlow : c.toNat < UInt8.size := (ascii_percentByte hc).1.trans (by decide)
      rw [UInt8.toNat_ofNat_of_lt' hlow, Char.ofNat_toNat]
    have hdigits : digits? 16 [(Nat.digitChar (b.toNat / 16 % 16)).toUpper,
        (Nat.digitChar (b.toNat % 16)).toUpper] = some b.toNat := by
      refine (digitsFrom?_hexadecimal_toUpper 2 b.toNat 0).trans ?_
      rw [Nat.zero_mul, Nat.zero_add, Nat.mod_eq_of_lt b.toNat_lt]
    rw [hescape] at hbyte ⊢
    simp only [List.mem_cons, forall_eq_or_imp] at hbyte
    simp only [List.map_cons, List.map_nil, List.cons_append, List.nil_append]
    rw [show UInt8.ofNat '%'.toNat = 0x25 from rfl, percentBytes, hbyte.2.1, hbyte.2.2.1, hdigits]
    simp

/-! ## Texts -/

/-- What is encoded is ASCII and has no slash. -/
lemma ascii_percentEncode {s : String} {c : Char} (h : c ∈ (percentEncode s).toList) :
    c.toNat < 0x80 ∧ c ≠ '/' := by
  rw [percentEncode, String.toList_ofList, List.mem_flatMap] at h
  obtain ⟨b, -, hc⟩ := h
  exact ascii_percentByte hc

lemma percentBytes_flatMap (bs : List UInt8) :
    percentBytes ((bs.flatMap percentByte).map fun c => UInt8.ofNat c.toNat) = bs := by
  induction bs with
  | nil => rfl
  | cons b rest ih => rw [List.flatMap_cons, List.map_append, percentBytes_percentByte, ih]

/-- **An encoded text decodes to itself.** -/
theorem percentDecode?_percentEncode (s : String) : percentDecode? (percentEncode s) = some s := by
  have hascii : ∀ c ∈ s.toUTF8.toList.flatMap percentByte, c.toNat < 0x80 := fun c hc =>
    (ascii_percentEncode (s := s) (by rwa [percentEncode, String.toList_ofList])).1
  rw [percentDecode?, percentEncode, toList_toUTF8_ofList hascii, percentBytes_flatMap,
    fromUTF8?_toUTF8_toList]

lemma percentEncode_inj {s t : String} (h : percentEncode s = percentEncode t) : s = t := by
  have hdecode := percentDecode?_percentEncode s
  rw [h, percentDecode?_percentEncode] at hdecode
  exact (Option.some.inj hdecode).symm

end FailoverStorage.Http

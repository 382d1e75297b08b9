import FailoverStorage.Net.ServiceIp
import FailoverStorage.Proofs.Net.Address

/-!
# Reading back service IPs

A service IP is denoted by its text (`ServiceIp.parse_text`).  The text has one slash and no comma,
so an address and its prefix length can be told apart again, and so can the members of a list with
commas between them (`splitAll_texts`).
-/

namespace FailoverStorage.ServiceIp

open Text

lemma slash_notMem_address (a : IpAddress) : '/' ∉ a.text.toList := by
  intro h
  rcases IpAddress.isAddressChar_of_mem_text h with ⟨d, hd, hc⟩ | hc | hc
  · exact absurd hc.symm ((by decide : ∀ d < 16, Nat.digitChar d ≠ '/') d hd)
  · exact absurd hc (by decide)
  · exact absurd hc (by decide)

/-- The first slash ends the address. -/
lemma splitFirst_slash {address : String} (h : '/' ∉ address.toList) (length : String) :
    splitFirst '/' (address ++ "/" ++ length).toList = some (address.toList, length.toList) := by
  have htext : (address ++ "/" ++ length).toList = address.toList ++ '/' :: length.toList := by
    simp [String.toList_append]
  rw [htext, splitFirst_append h]

section

variable {address length : String} {a : IpAddress} (hslash : '/' ∉ address.toList)
  (ha : IpAddress.read address.toList = some a)

include hslash ha

/-- After an address only the prefix length is left to read. -/
lemma parse_eq_make {n : UInt8} (hn : byte? length = some n) :
    parse (address ++ "/" ++ length) = make a n := by
  rw [parse, splitFirst_slash hslash]
  simp only [ha, String.ofList_toList, hn]

lemma parse_eq_error (hn : byte? length = none) : parse (address ++ "/" ++ length)
    = .error (.validation ("invalid prefix length '" ++ length ++ "'")) := by
  rw [parse, splitFirst_slash hslash]
  simp only [ha, String.ofList_toList, hn]

variable {n : Nat} (hn : numeral? length.toList = some n)

include hn

/-- A prefix length that fits is read with its address, however both are spelled. -/
lemma exists_parse_eq_ok (h : n ≤ a.width) : ∃ ip, parse (address ++ "/" ++ length) = .ok ip
    ∧ ip.address = a ∧ ip.prefixLength.toNat = n := by
  have hwidth : a.width < UInt8.size := by
    rw [IpAddress.width]
    split <;> decide
  have hbyte := Nat.lt_of_le_of_lt h hwidth
  have hlength := UInt8.toNat_ofNat_of_lt' hbyte
  refine ⟨⟨a, .ofNat n, hlength.symm ▸ h⟩, ?_, rfl, hlength⟩
  rw [parse_eq_make hslash ha (byte?_of_lt hn hbyte)]
  exact dif_pos (hlength.symm ▸ h)

/-- A prefix length that does not fit is refused, however it is spelled, whether it is a byte or
not. -/
lemma exists_parse_eq_error (h : a.width < n) :
    ∃ message, parse (address ++ "/" ++ length) = .error (.validation message) := by
  by_cases hbyte : n < UInt8.size
  · have hlong : ¬ (UInt8.ofNat n).toNat ≤ a.width := by
      rw [UInt8.toNat_ofNat_of_lt' hbyte]
      exact Nat.not_le.2 h
    rw [parse_eq_make hslash ha (byte?_of_lt hn hbyte), make, dif_neg hlong]
    exact ⟨_, rfl⟩
  · exact ⟨_, parse_eq_error hslash ha (byte?_eq_none hn (Nat.not_lt.1 hbyte))⟩

end

/-- **A service IP is denoted by its text.** -/
lemma parse_text (ip : ServiceIp) : parse ip.text = .ok ip := by
  rw [text, parse_eq_make (slash_notMem_address ip.address) (IpAddress.read_text ip.address)
    (byte?_decimal ip.prefixLength)]
  exact dif_pos ip.inRange

lemma comma_notMem_text (ip : ServiceIp) : ',' ∉ ip.text.toList := by
  have hdigit : ∀ d < 16, Nat.digitChar d ≠ ',' := by decide
  intro h
  rw [text, String.toList_append, String.toList_append] at h
  have hchar : IpAddress.IsAddressChar ',' := by
    rcases List.mem_append.1 h with h | h
    · rcases List.mem_append.1 h with h | h
      · exact IpAddress.isAddressChar_of_mem_text h
      · exact absurd h (by decide)
    · exact IpAddress.isAddressChar_of_mem_decimal h
  rcases hchar with ⟨d, hd, hc⟩ | hc | hc
  · exact absurd hc.symm (hdigit d hd)
  · exact absurd hc (by decide)
  · exact absurd hc (by decide)

lemma text_ne_empty (ip : ServiceIp) : ip.text.toList ≠ [] := by
  simp [text, String.toList_append]

/-- The pieces of a list of service IPs are their texts. -/
lemma splitAll_texts {ips : List ServiceIp} (hne : ips ≠ []) :
    (splitAll ',' (joinWith "," (ips.map text)).toList).filter (!·.isEmpty)
      = ips.map fun ip => ip.text.toList := by
  rw [splitAll_joinWith rfl (by simpa using hne), List.map_map]
  · refine List.filter_eq_self.2 fun s hs => ?_
    obtain ⟨ip, -, rfl⟩ := List.mem_map.1 hs
    simpa using text_ne_empty ip
  · intro s hs
    obtain ⟨ip, -, rfl⟩ := List.mem_map.1 hs
    exact comma_notMem_text ip

end FailoverStorage.ServiceIp

import FailoverStorage.Net.Address
import FailoverStorage.Proofs.Text.Numeral
import FailoverStorage.Proofs.Text.Split

/-!
# Reading back IP addresses

The text of every address denotes that address (`IpAddress.read_text`).  For IPv4 that is four
decimal numbers between points.  For IPv6 there are three forms: all eight groups, groups around a
gap, and an embedded IPv4 address.  A gap covers a run of zeros (`longestZeroRun_spec`), and it is
the only place of the text with two colons next to each other (`splitGap_joinWith`), because no
group is empty.
-/

namespace FailoverStorage.IpAddress

open Text

/-! ## Characters of numbers -/

lemma notMem_toDigits {base : Nat} (h2 : 1 < base) {c : Char}
    (h : ∀ d < base, Nat.digitChar d ≠ c) (n : Nat) : c ∉ Nat.toDigits base n := by
  intro hc
  obtain ⟨d, hd, rfl⟩ := mem_toDigits h2 hc
  exact h d hd rfl

lemma toList_groupText (n : Nat) : (groupText n).toList = Nat.toDigits 16 n := by
  rw [groupText, String.toList_ofList]

lemma groupText_ne_empty (n : Nat) : (groupText n).toList ≠ [] := by
  rw [toList_groupText]
  exact Nat.toDigits_ne_nil

lemma colon_notMem_groupText (n : Nat) : ':' ∉ (groupText n).toList := by
  rw [toList_groupText]
  exact notMem_toDigits (by decide) (by decide) n

lemma dot_notMem_groupText (n : Nat) : '.' ∉ (groupText n).toList := by
  rw [toList_groupText]
  exact notMem_toDigits (by decide) (by decide) n

lemma dot_notMem_decimal (n : Nat) : '.' ∉ (decimal n).toList := by
  rw [toList_decimal]
  exact notMem_toDigits (by decide) (by decide) n

lemma colon_notMem_decimal (n : Nat) : ':' ∉ (decimal n).toList := by
  rw [toList_decimal]
  exact notMem_toDigits (by decide) (by decide) n

/-! ## Numbers between separators -/

lemma readOctet_toDigits : ∀ n < 256, readOctet (Nat.toDigits 10 n) = some n := by
  decide +kernel

lemma readGroup_groupText {n : Nat} (h : n < UInt16.size) :
    readGroup (groupText n).toList = some n := by
  have hlength : (Nat.toDigits 16 n).length ≤ 4 :=
    (Nat.length_toDigits_le_iff (by decide) (by decide)).2 h
  rw [toList_groupText, readGroup, if_pos hlength, digits?_toDigits (by decide) (by decide)]

/-- The text of four bytes reads back as these bytes. -/
lemma readQuad_dottedQuad {a b c d : Nat} (ha : a < 256) (hb : b < 256) (hc : c < 256)
    (hd : d < 256) : readQuad (dottedQuad a b c d).toList = some (a, b, c, d) := by
  have hparts : splitAll '.' (dottedQuad a b c d).toList
      = ([a, b, c, d].map decimal).map String.toList := by
    refine splitAll_joinWith rfl (by simp) fun s hs => ?_
    obtain ⟨n, -, rfl⟩ := List.mem_map.1 hs
    exact dot_notMem_decimal n
  rw [readQuad, hparts]
  simp [toList_decimal, readOctet_toDigits, ha, hb, hc, hd]

/-- A text without a point is no dotted quad. -/
lemma readQuad_eq_none {s : List Char} (h : '.' ∉ s) : readQuad s = none := by
  rw [readQuad, splitAll_of_notMem h]

/-- Groups in front of a gap. -/
lemma mapM_readGroup {groups : List Nat} (h : ∀ n ∈ groups, n < UInt16.size) :
    ((groups.map groupText).map String.toList).mapM readGroup = some groups := by
  induction groups with
  | nil => rfl
  | cons n rest ih =>
      rw [List.map_cons, List.map_cons, List.mapM_cons,
        readGroup_groupText (h n List.mem_cons_self),
        ih fun m hm => h m (List.mem_cons_of_mem _ hm)]
      rfl

/-- Groups at the end of a text. -/
lemma readGroups_groupText :
    ∀ {groups : List Nat}, (∀ n ∈ groups, n < UInt16.size) →
      readGroups ((groups.map groupText).map String.toList) = some groups
  | [], _ => rfl
  | [n], h => by
      have hn := h n List.mem_cons_self
      simp [readGroups, readQuad_eq_none (dot_notMem_groupText n), readGroup_groupText hn]
  | n :: m :: rest, h => by
      have ih := @readGroups_groupText (m :: rest)
        fun k hk => h k (List.mem_cons_of_mem _ hk)
      simp only [List.map_cons] at ih ⊢
      rw [readGroups, readGroup_groupText (h n List.mem_cons_self), ih]
      · rfl
      · simp

/-! ## The gap -/

/-- A list begins with as many zeros as it has leading zeros. -/
lemma leadingZeros_spec (groups : List Nat) :
    groups = List.replicate (leadingZeros groups) 0 ++ groups.drop (leadingZeros groups) := by
  induction groups with
  | nil => rfl
  | cons g rest ih =>
      cases g with
      | zero => rw [leadingZeros, List.replicate_succ, List.cons_append, List.drop_succ_cons, ← ih]
      | succ n => rfl

/-- **The longest run of zeros is one**: zeros stand where it says. -/
lemma longestZeroRun_spec (start : Nat) (groups : List Nat) :
    start ≤ (longestZeroRun start groups).1 ∧
      groups = groups.take ((longestZeroRun start groups).1 - start)
        ++ (List.replicate (longestZeroRun start groups).2 0
          ++ groups.drop ((longestZeroRun start groups).1 - start
            + (longestZeroRun start groups).2)) := by
  induction groups generalizing start with
  | nil => simp [longestZeroRun]
  | cons g rest ih =>
      rw [longestZeroRun]
      split
      · refine ⟨Nat.le_refl _, ?_⟩
        rw [Nat.sub_self, List.take_zero, List.nil_append, Nat.zero_add]
        exact leadingZeros_spec _
      · obtain ⟨hle, heq⟩ := ih (start + 1)
        obtain ⟨k, hk⟩ := Nat.exists_eq_add_of_le hle
        refine ⟨by omega, ?_⟩
        rw [hk] at heq ⊢
        have hsub : start + 1 + k - start = k + 1 := by omega
        have hdrop : k + 1 + (longestZeroRun (start + 1) rest).2
            = k + (longestZeroRun (start + 1) rest).2 + 1 := by omega
        rw [Nat.add_sub_cancel_left] at heq
        rw [hsub, hdrop, List.take_succ_cons, List.drop_succ_cons, List.cons_append, ← heq]

/-- Before a gap, joined groups have no two colons next to each other. -/
lemma splitGap_append {s : List Char} (h : ':' ∉ s) (tail : List Char) :
    splitGap (s ++ tail) = (splitGap tail).map fun (before, after) => (s ++ before, after) := by
  induction s with
  | nil => simp
  | cons c rest ih =>
      have hc : c ≠ ':' := fun heq => h (heq ▸ List.mem_cons_self)
      have hrest : ':' ∉ rest := fun hmem => h (List.mem_cons_of_mem _ hmem)
      rw [List.cons_append, splitGap, ih hrest, Option.map_map]
      · rfl
      · intro r heq
        exact absurd heq hc

/-- A single colon is no gap. -/
lemma splitGap_colon {s : List Char} (h : s.head? ≠ some ':') :
    splitGap (':' :: s) = (splitGap s).map fun (before, after) => (':' :: before, after) := by
  rw [splitGap]
  intro r _ heq
  exact h (by rw [heq]; rfl)

/-- **The first gap of a text that begins with joined groups comes after them.** -/
lemma splitGap_joinWith :
    ∀ {parts : List String}, (∀ s ∈ parts, s.toList ≠ [] ∧ ':' ∉ s.toList) → ∀ tail,
      splitGap ((joinWith ":" parts).toList ++ tail)
        = (splitGap tail).map fun (before, after) => ((joinWith ":" parts).toList ++ before, after)
  | [], _, tail => by simp [joinWith]
  | [s], h, tail => splitGap_append (h s List.mem_cons_self).2 tail
  | s :: t :: rest, h, tail => by
      have ih := @splitGap_joinWith (t :: rest)
        (fun u hu => h u (List.mem_cons_of_mem _ hu)) tail
      obtain ⟨ht, htc⟩ := h t (by simp)
      have hhead : ((joinWith ":" (t :: rest)).toList ++ tail).head? ≠ some ':' := by
        obtain ⟨c, cs, hcs⟩ := List.exists_cons_of_ne_nil ht
        have hc : c ≠ ':' := fun heq => htc (hcs ▸ heq ▸ List.mem_cons_self)
        cases rest with
        | nil => simp [joinWith, hcs, hc]
        | cons u us => simp [toList_joinWith_cons_cons, hcs, hc]
      have hcolon : ":".toList = [':'] := rfl
      rw [toList_joinWith_cons_cons, hcolon, List.append_assoc, List.append_assoc,
        splitGap_append (h s List.mem_cons_self).2, List.singleton_append, splitGap_colon hhead, ih,
        Option.map_map, Option.map_map]
      simp [Function.comp_def]

/-! ## Texts of groups -/

/-- Groups with colons between them. -/
def colons (groups : List Nat) : String := joinWith ":" (groups.map groupText)

lemma colons_parts (groups : List Nat) :
    ∀ s ∈ groups.map groupText, s.toList ≠ [] ∧ ':' ∉ s.toList := by
  intro s hs
  obtain ⟨n, -, rfl⟩ := List.mem_map.1 hs
  exact ⟨groupText_ne_empty n, colon_notMem_groupText n⟩

lemma dot_notMem_colons (groups : List Nat) : '.' ∉ (colons groups).toList := by
  intro h
  rcases mem_joinWith h with h | ⟨s, hs, hc⟩
  · exact absurd h (by decide)
  · obtain ⟨n, -, rfl⟩ := List.mem_map.1 hs
    exact dot_notMem_groupText n hc

/-- The pieces of one side of a gap are its groups. -/
lemma pieces_colons (groups : List Nat) :
    pieces (colons groups).toList = (groups.map groupText).map String.toList := by
  cases groups with
  | nil => rfl
  | cons n rest =>
      have hne : (colons (n :: rest)).toList ≠ [] := by
        cases rest with
        | nil => exact groupText_ne_empty n
        | cons m rest =>
            rw [colons, List.map_cons, List.map_cons, toList_joinWith_cons_cons]
            simp [groupText_ne_empty n]
      rw [pieces, if_neg (by simpa using hne)]
      exact splitAll_joinWith rfl (by simp) fun s hs => (colons_parts _ s hs).2

/-- Eight groups without a gap. -/
lemma readEightGroups_colons {groups : List Nat} (hne : groups ≠ [])
    (h : ∀ n ∈ groups, n < UInt16.size) :
    readEightGroups (colons groups).toList = some groups := by
  have hgap : splitGap (colons groups).toList = none := by
    have := splitGap_joinWith (colons_parts groups) []
    simpa [colons, splitGap] using this
  rw [readEightGroups, hgap]
  have hparts := @splitAll_joinWith ':' ":" rfl (groups.map groupText)
    (by simpa using hne) fun s hs => (colons_parts _ s hs).2
  simp only
  rw [colons, hparts, readGroups_groupText h]

/-- Groups around a gap stand for themselves and zeros between them. -/
lemma readEightGroups_gap {front back : List Nat} (hfront : ∀ n ∈ front, n < UInt16.size)
    (hback : ∀ n ∈ back, n < UInt16.size) (hlen : front.length + back.length ≤ 7) :
    readEightGroups (colons front ++ "::" ++ colons back).toList
      = some (front ++ List.replicate (8 - (front.length + back.length)) 0 ++ back) := by
  have htext : (colons front ++ "::" ++ colons back).toList
      = (colons front).toList ++ ':' :: ':' :: (colons back).toList := by
    simp [String.toList_append]
  have hgap : splitGap (colons front ++ "::" ++ colons back).toList
      = some ((colons front).toList, (colons back).toList) := by
    rw [htext, colons, splitGap_joinWith (colons_parts front)]
    simp [splitGap]
  rw [readEightGroups, hgap]
  simp only [pieces_colons, mapM_readGroup hfront, readGroups_groupText hback]
  simp [hlen]

/-- **Groups read back from their text.** -/
lemma readEightGroups_groupsText {groups : List Nat} (hlen : groups.length = 8)
    (h : ∀ n ∈ groups, n < UInt16.size) :
    readEightGroups (groupsText groups).toList = some groups := by
  obtain ⟨-, hrun⟩ := longestZeroRun_spec 0 groups
  rw [groupsText]
  split
  · rename_i hgap
    set i := (longestZeroRun 0 groups).1
    set n := (longestZeroRun 0 groups).2
    rw [Nat.sub_zero] at hrun
    have hcount : (groups.take i).length + (groups.drop (i + n)).length + n = 8 := by
      have := congrArg List.length hrun
      simp only [List.length_append, List.length_replicate] at this
      omega
    have hread := @readEightGroups_gap (groups.take i) (groups.drop (i + n))
      (fun m hm => h m (List.mem_of_mem_take hm)) (fun m hm => h m (List.mem_of_mem_drop hm))
      (by omega)
    have hzeros : 8 - ((groups.take i).length + (groups.drop (i + n)).length) = n := by omega
    rw [hzeros, List.append_assoc, ← hrun] at hread
    exact hread
  · exact readEightGroups_colons (by rintro rfl; simp at hlen) h

lemma dot_notMem_groupsText (groups : List Nat) : '.' ∉ (groupsText groups).toList := by
  rw [groupsText]
  split
  · intro h
    rw [String.toList_append, String.toList_append] at h
    rcases List.mem_append.1 h with h | h
    · rcases List.mem_append.1 h with h | h
      · exact dot_notMem_colons _ h
      · exact absurd h (by decide)
    · exact dot_notMem_colons _ h
  · exact dot_notMem_colons groups

/-! ## Embedded IPv4 addresses -/

/-- The groups of an IPv4-mapped address read back from its text. -/
lemma readEightGroups_mapped {a b c d : Nat} (ha : a < 256) (hb : b < 256) (hc : c < 256)
    (hd : d < 256) : readEightGroups ("::ffff:" ++ dottedQuad a b c d).toList
      = some [0, 0, 0, 0, 0, 0xFFFF, a * 256 + b, c * 256 + d] := by
  have htext : ("::ffff:" ++ dottedQuad a b c d).toList
      = ':' :: ':' :: ("ffff".toList ++ ':' :: (dottedQuad a b c d).toList) := by
    rw [String.toList_append]
    rfl
  have hcolon : ':' ∉ (dottedQuad a b c d).toList := by
    intro h
    rcases mem_joinWith h with h | ⟨s, hs, h⟩
    · exact absurd h (by decide)
    · obtain ⟨n, -, rfl⟩ := List.mem_map.1 hs
      exact colon_notMem_decimal n h
  have hpieces : pieces ("ffff".toList ++ ':' :: (dottedQuad a b c d).toList)
      = ["ffff".toList, (dottedQuad a b c d).toList] := by
    rw [pieces, if_neg (by simp), splitAll_append (by decide), splitAll_of_notMem hcolon]
  have hgroup : readGroup ['f', 'f', 'f', 'f'] = some 0xFFFF := by decide
  rw [htext, readEightGroups, splitGap]
  simp only [hpieces]
  simp [pieces, readGroups, hgroup, readQuad_dottedQuad ha hb hc hd]

/-- The text of an IPv4-mapped address is no dotted quad. -/
lemma readQuad_mapped (a b c d : Nat) :
    readQuad ("::ffff:" ++ dottedQuad a b c d).toList = none := by
  have htext : ("::ffff:" ++ dottedQuad a b c d).toList
      = ("::ffff:".toList ++ (decimal a).toList)
        ++ '.' :: (joinWith "." ([b, c, d].map decimal)).toList := by
    rw [String.toList_append, dottedQuad, List.map_cons, List.map_cons, toList_joinWith_cons_cons]
    simp
  have hdot : '.' ∉ "::ffff:".toList ++ (decimal a).toList := by
    intro h
    rcases List.mem_append.1 h with h | h
    · exact absurd h (by decide)
    · exact dot_notMem_decimal a h
  have hoctet : readOctet ("::ffff:".toList ++ (decimal a).toList) = none := by
    rw [readOctet, if_neg]
    simp
  rw [htext, readQuad, splitAll_append hdot]
  split
  · rename_i heq
    obtain ⟨rfl, -⟩ := List.cons.inj heq
    rw [hoctet]
    rfl
  · rfl

/-! ## All addresses -/

/-- **Every address is denoted by its text.** -/
theorem read_text (a : IpAddress) : read a.text.toList = some a := by
  cases a with
  | v4 a b c d =>
      have hread := readQuad_dottedQuad a.toNat_lt b.toNat_lt c.toNat_lt d.toNat_lt
      simp [text, read, hread]
  | v6 s₀ s₁ s₂ s₃ s₄ s₅ s₆ s₇ =>
      rw [text]
      split
      · rename_i hzero
        obtain ⟨rfl, rfl, rfl, rfl, rfl, rfl⟩ := hzero
        have h₆ := s₆.toNat_lt
        have h₇ := s₇.toNat_lt
        have hread := readEightGroups_mapped (a := s₆.toNat / 256) (b := s₆.toNat % 256)
          (c := s₇.toNat / 256) (d := s₇.toNat % 256) (by omega) (by omega) (by omega) (by omega)
        rw [read, readQuad_mapped]
        simp only [hread]
        simp [Nat.div_add_mod']
      · set groups := [s₀, s₁, s₂, s₃, s₄, s₅, s₆, s₇].map UInt16.toNat
        have hread := @readEightGroups_groupsText groups rfl fun n hn => by
          obtain ⟨s, -, rfl⟩ := List.mem_map.1 hn
          exact s.toNat_lt
        rw [read, readQuad_eq_none (dot_notMem_groupsText groups)]
        simp only [hread]
        simp [groups]

/-! ## Characters of addresses -/

/-- The characters of which addresses consist. -/
def IsAddressChar (c : Char) : Prop := (∃ d < 16, c = Nat.digitChar d) ∨ c = ':' ∨ c = '.'

lemma isAddressChar_of_mem_decimal {n : Nat} {c : Char} (h : c ∈ (decimal n).toList) :
    IsAddressChar c := by
  rw [toList_decimal] at h
  obtain ⟨d, hd, rfl⟩ := mem_toDigits (by decide) h
  exact .inl ⟨d, by omega, rfl⟩

lemma isAddressChar_of_mem_dottedQuad {a b c d : Nat} {x : Char}
    (h : x ∈ (dottedQuad a b c d).toList) : IsAddressChar x := by
  rcases mem_joinWith h with h | ⟨s, hs, h⟩
  · exact .inr (.inr (by simpa using h))
  · obtain ⟨n, -, rfl⟩ := List.mem_map.1 hs
    exact isAddressChar_of_mem_decimal h

lemma isAddressChar_of_mem_colons {groups : List Nat} {x : Char}
    (h : x ∈ (colons groups).toList) : IsAddressChar x := by
  rcases mem_joinWith h with h | ⟨s, hs, h⟩
  · exact .inr (.inl (by simpa using h))
  · obtain ⟨n, -, rfl⟩ := List.mem_map.1 hs
    rw [toList_groupText] at h
    exact .inl (mem_toDigits (by decide) h)

lemma isAddressChar_of_mem_groupsText {groups : List Nat} {x : Char}
    (h : x ∈ (groupsText groups).toList) : IsAddressChar x := by
  rw [groupsText] at h
  split at h
  · rw [String.toList_append, String.toList_append] at h
    rcases List.mem_append.1 h with h | h
    · rcases List.mem_append.1 h with h | h
      · exact isAddressChar_of_mem_colons h
      · exact .inr (.inl (by simpa using h))
    · exact isAddressChar_of_mem_colons h
  · exact isAddressChar_of_mem_colons h

/-- An address is written with digits, colons and points only. -/
lemma isAddressChar_of_mem_text {a : IpAddress} {x : Char} (h : x ∈ a.text.toList) :
    IsAddressChar x := by
  cases a with
  | v4 a b c d => exact isAddressChar_of_mem_dottedQuad h
  | v6 s₀ s₁ s₂ s₃ s₄ s₅ s₆ s₇ =>
      rw [text] at h
      split at h
      · rw [String.toList_append] at h
        rcases List.mem_append.1 h with h | h
        · have hlit : "::ffff:".toList = [':', ':', 'f', 'f', 'f', 'f', ':'] := rfl
          have hx : x = ':' ∨ x = 'f' := by
            rw [hlit] at h
            simp only [List.mem_cons, List.not_mem_nil, or_false] at h
            tauto
          rcases hx with rfl | rfl
          · exact .inr (.inl rfl)
          · exact .inl ⟨15, by decide, rfl⟩
        · exact isAddressChar_of_mem_dottedQuad h
      · exact isAddressChar_of_mem_groupsText h

end FailoverStorage.IpAddress

import FailoverStorage.Naming.QualifiedName
import FailoverStorage.Proofs.Text.Split

/-!
# Reading back qualified names

A qualified name is what its text reads as.  In an IQN everything before the first colon is the
naming authority and everything after it a resource name, so a blank can only stand before the
colon, and a text without a colon is no IQN.
-/

namespace FailoverStorage

open Text

/-! ## Resource names -/

lemma ResourceName.check_eq_ok_iff {name : String} :
    check name = .ok () ↔ fault? name.toList = none := by
  rw [check]
  split <;> simp_all

/-- A resource name holds letters, digits, underscores and hyphens only. -/
lemma ResourceName.isBody_of_mem {s : List Char} (h : fault? s = none) {c : Char} (hc : c ∈ s) :
    isBody c = true := by
  cases s with
  | nil => cases hc
  | cons d rest =>
      simp only [fault?] at h
      split at h
      · cases h
      split at h
      · cases h
      rename_i halpha _
      rw [Option.map_eq_none_iff, List.find?_eq_none] at h
      rcases List.mem_cons.1 hc with rfl | hc
      · have hd : c.isAlpha = true := by simpa using halpha
        simp [isBody, Char.isAlphanum, hd]
      · simpa using h c hc

lemma ResourceName.isBlank_eq_false {c : Char} (h : isBody c = true) : isBlank c = false := by
  have hcode : c.toNat = c.val.toNat := rfl
  change (decide (c.val ≥ 'A'.val ∧ c.val ≤ 'Z'.val) || (c.val ≥ 'a'.val && c.val ≤ 'z'.val)
    || (c.val ≥ '0'.val && c.val ≤ '9'.val) || c = '_' || c = '-') = true at h
  simp only [Bool.or_eq_true, Bool.and_eq_true, decide_eq_true_eq, ge_iff_le,
    UInt32.le_iff_toNat_le] at h
  rcases h with (((h | h) | h) | rfl) | rfl
  · have h₁ : 'A'.val.toNat = 65 := rfl
    have h₂ : 'Z'.val.toNat = 90 := rfl
    simp only [isBlank, Bool.or_eq_false_iff, Bool.and_eq_false_iff, decide_eq_false_iff_not]
    omega
  · have h₁ : 'a'.val.toNat = 97 := rfl
    have h₂ : 'z'.val.toNat = 122 := rfl
    simp only [isBlank, Bool.or_eq_false_iff, Bool.and_eq_false_iff, decide_eq_false_iff_not]
    omega
  · have h₁ : '0'.val.toNat = 48 := rfl
    have h₂ : '9'.val.toNat = 57 := rfl
    simp only [isBlank, Bool.or_eq_false_iff, Bool.and_eq_false_iff, decide_eq_false_iff_not]
    omega
  · decide
  · decide

/-! ## Months -/

lemma dropMonth?_eq_some_iff {s rest : List Char} :
    dropMonth? s = some rest ↔ ∃ month, s = month ++ rest ∧ dropMonth? month = some [] := by
  constructor
  · intro h
    unfold dropMonth? at h
    split at h
    · rename_i a b c d e f rest
      split at h
      · rename_i hdigits
        cases h
        exact ⟨[a, b, c, d, '-', e, f], rfl, if_pos hdigits⟩
      · cases h
    · cases h
  · rintro ⟨month, rfl, h⟩
    unfold dropMonth? at h
    split at h
    · split at h
      · rename_i hdigits
        cases h
        exact if_pos hdigits
      · cases h
    · cases h

/-- A month holds digits and a hyphen only. -/
lemma notMem_month {month : List Char} {x : Char} (hdigit : x.isDigit = false) (hhyphen : x ≠ '-')
    (h : dropMonth? month = some []) : x ∉ month := by
  intro hmem
  unfold dropMonth? at h
  split at h
  · rename_i a b c d e f rest
    split at h
    · rename_i hdigits
      cases h
      have hparts : x = '-' ∨ x ∈ [a, b, c, d, e, f] := by
        simp only [List.mem_cons] at hmem ⊢
        tauto
      rcases hparts with hx | hx
      · exact hhyphen hx
      · rw [List.all_eq_true.1 hdigits x hx] at hdigit
        cases hdigit
    · cases h
  · cases h

lemma colon_notMem_month {month : List Char} (h : dropMonth? month = some []) : ':' ∉ month :=
  notMem_month (by decide) (by decide) h

/-! ## iSCSI -/

namespace Iqn

lemma parse_text (iqn : Iqn) : parse iqn.text = .ok iqn := by
  obtain ⟨text, valid⟩ := iqn
  rw [parse]
  split
  · rfl
  · rename_i h
    rw [valid] at h
    cases h

lemma text_of_parse {s : String} {iqn : Iqn} (h : parse s = .ok iqn) : iqn.text = s := by
  rw [parse] at h
  split at h
  · cases h
    rfl
  · cases h

/-- **The parts of an IQN**, cut at its first colon. -/
lemma fault?_eq_none_iff {s : List Char} : fault? s = none
    ↔ ∃ month authority name, s = "iqn.".toList ++ (month ++ '.' :: authority) ++ ':' :: name
      ∧ dropMonth? month = some [] ∧ authority ≠ [] ∧ ':' ∉ authority
      ∧ ResourceName.fault? name = none := by
  rw [fault?]
  constructor
  · intro h
    split at h
    · cases h
    rename_i rest hstart
    split at h
    · cases h
    rename_i before name hcolon
    split at h
    · cases h
    rename_i month authority hdot
    split at h
    · cases h
    rename_i hmonth
    split at h
    · cases h
    rename_i hauthority
    obtain ⟨rfl, hbefore⟩ := splitFirst_eq_some hcolon
    obtain ⟨rfl, -⟩ := splitFirst_eq_some hdot
    refine ⟨month, authority, name, ?_, Decidable.not_not.1 hmonth, by simpa using hauthority,
      fun hmem => hbefore (List.mem_append_right _ (List.mem_cons_of_mem _ hmem)),
      Option.map_eq_none_iff.1 h⟩
    rw [dropStart_eq_some_iff.1 hstart, ← List.append_assoc]
  · rintro ⟨month, authority, name, rfl, hmonth, hauthority, hcolon, hname⟩
    have hbefore : ':' ∉ month ++ '.' :: authority := by
      simp [colon_notMem_month hmonth, hcolon]
    have hdot : '.' ∉ month := notMem_month (by decide) (by decide) hmonth
    rw [List.append_assoc, dropStart_append]
    simp only [splitFirst_append hbefore, splitFirst_append hdot, hmonth, hname]
    simp [hauthority]

/-- What the first colon cuts off. -/
lemma nameOf_append {before : List Char} (h : ':' ∉ before) (name : List Char) :
    nameOf ("iqn.".toList ++ before ++ ':' :: name) = name := by
  have hstart : ':' ∉ "iqn.".toList ++ before := by
    simpa using h
  rw [nameOf, splitFirst_append hstart, Option.map_some, Option.getD_some]

/-- The text of an IQN is a letter, the rest of its authority, a colon and a resource name. -/
lemma exists_text_eq (iqn : Iqn) : ∃ authority name,
    iqn.text.toList = 'i' :: authority ++ ':' :: name ∧ ':' ∉ authority
      ∧ ∀ c ∈ name, isBlank c = false := by
  obtain ⟨month, authority, name, htext, hmonth, -, hcolon, hname⟩ := fault?_eq_none_iff.1 iqn.valid
  refine ⟨"qn.".toList ++ (month ++ '.' :: authority), name, htext, ?_, fun c hc =>
    ResourceName.isBlank_eq_false (ResourceName.isBody_of_mem hname hc)⟩
  simp [colon_notMem_month hmonth, hcolon]

/-- **An IQN with a blank falls apart**: its first word ends before its colon. -/
lemma exists_word_of_not_isBlankFree {iqn : Iqn} (h : ¬ IsBlankFree iqn.text) :
    ∃ w ∈ words iqn.text.toList, ':' ∉ w := by
  obtain ⟨authority, name, htext, hcolon, hname⟩ := iqn.exists_text_eq
  cases hfind : authority.find? isBlank with
  | none =>
      refine absurd (fun c hc => ?_) h
      rw [List.find?_eq_none] at hfind
      simp only [htext, List.mem_append, List.mem_cons] at hc
      rcases hc with (rfl | hc) | rfl | hc
      · decide
      · simpa using hfind c hc
      · decide
      · exact hname c hc
  | some b =>
      obtain ⟨hb, before, after, rfl, hbefore⟩ := List.find?_eq_some_iff_append.1 hfind
      have hword : ∀ c ∈ 'i' :: before, isBlank c = false := by
        intro c hc
        rcases List.mem_cons.1 hc with rfl | hc
        · decide
        · simpa using hbefore c hc
      have hwords : words iqn.text.toList
          = ['i' :: before] ++ words (after ++ ':' :: name) := by
        rw [← words_of_isBlankFree (List.cons_ne_nil _ _) hword, htext, words,
          List.cons_append, List.append_assoc, List.cons_append, ← List.cons_append,
          wordsFrom_append_blank hb]
        rfl
      refine ⟨'i' :: before, ?_, fun hmem => ?_⟩
      · rw [hwords]
        exact List.mem_cons_self
      · rcases List.mem_cons.1 hmem with hmem | hmem
        · revert hmem
          decide
        · exact hcolon (List.mem_append_left _ hmem)

/-- A text without a colon is no IQN. -/
lemma exists_parse_eq_error {s : String} (h : ':' ∉ s.toList) : ∃ e, parse s = .error e := by
  have hfault : fault? s.toList ≠ none := by
    rw [fault?]
    split
    · simp
    · rename_i rest hstart
      have hrest : ':' ∉ rest := fun hmem => h (by
        rw [dropStart_eq_some_iff.1 hstart]
        exact List.mem_append_right _ hmem)
      rw [splitFirst_eq_none hrest]
      simp
  rw [parse]
  split
  · rename_i hnone
    exact absurd hnone hfault
  · exact ⟨_, rfl⟩

end Iqn

/-! ## NVMe-oF -/

namespace Nqn

/-- **The parts of an NQN**, cut at its last colon. -/
lemma fault?_eq_none_iff {s : List Char} : fault? s = none
    ↔ ResourceName.byteLength s ≤ maxLength
      ∧ ∃ month domain name, s = "nqn.".toList ++ (month ++ '.' :: domain) ++ ':' :: name
        ∧ dropMonth? month = some [] ∧ domain ≠ [] ∧ ResourceName.fault? name = none := by
  rw [fault?]
  constructor
  · intro h
    split at h
    · cases h
    rename_i hlength
    split at h
    · cases h
    rename_i rest hstart
    split at h
    · cases h
    rename_i before name hcolon
    split at h
    · rename_i c domain hcut
      obtain ⟨rfl, -⟩ := splitLast_eq_some hcolon
      obtain ⟨month, rfl, hmonth⟩ := dropMonth?_eq_some_iff.1 hcut
      refine ⟨Nat.not_lt.1 hlength, month, c :: domain, name, ?_, hmonth, List.cons_ne_nil _ _,
        Option.map_eq_none_iff.1 h⟩
      rw [dropStart_eq_some_iff.1 hstart, ← List.append_assoc]
    · cases h
  · rintro ⟨hlength, month, domain, name, rfl, hmonth, hdomain, hname⟩
    have hcolon : ':' ∉ name := fun hmem =>
      absurd (ResourceName.isBody_of_mem hname hmem) (by decide)
    obtain ⟨c, rest, rfl⟩ := List.exists_cons_of_ne_nil hdomain
    rw [if_neg (Nat.not_lt.2 hlength), List.append_assoc, dropStart_append]
    simp only [splitLast_append hcolon, dropMonth?_eq_some_iff.2 ⟨month, rfl, hmonth⟩, hname,
      Option.map_none]

/-- What the last colon cuts off. -/
lemma nameOf_append {name : List Char} (h : ':' ∉ name) (before : List Char) :
    nameOf (before ++ ':' :: name) = name := by
  rw [nameOf, splitLast_append h, Option.map_some, Option.getD_some]

lemma parse_text (nqn : Nqn) : parse nqn.text = .ok nqn := by
  obtain ⟨text, valid⟩ := nqn
  rw [parse]
  split
  · rfl
  · rename_i h
    rw [valid] at h
    cases h

lemma text_of_parse {s : String} {nqn : Nqn} (h : parse s = .ok nqn) : nqn.text = s := by
  rw [parse] at h
  split at h
  · cases h
    rfl
  · cases h

end Nqn

end FailoverStorage

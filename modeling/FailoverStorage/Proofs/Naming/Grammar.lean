import FailoverStorage.Proofs.Endpoint.Identity
import FailoverStorage.Proofs.Naming.QualifiedName

/-!
# The grammars of identities

Each protocol reads identities of one form, and every form ends in the name of a storage resource.
The grammars say which texts these are without saying how they are cut (`Protocol.Spells`).

**What is read is what is spelled** (`Protocol.parseIdentity_iff_spells`).  The name after the last
separator of a spelling holds no separator itself, so there is only one way to cut a text, and the
name that was checked when the text was read is the one that is taken from it later.
-/

namespace FailoverStorage

open Text

/-! ## The grammars -/

namespace Grammar

/-- A letter of either case, without accents. -/
def IsLetter (c : Char) : Prop := ('A' ≤ c ∧ c ≤ 'Z') ∨ 'a' ≤ c ∧ c ≤ 'z'

/-- A decimal digit. -/
def IsDigit (c : Char) : Prop := '0' ≤ c ∧ c ≤ '9'

/-- **A name**: a letter and at most 47 letters, digits, underscores and hyphens. -/
def IsName (s : String) : Prop :=
  ∃ c rest, s.toList = c :: rest ∧ IsLetter c ∧ rest.length ≤ 47
    ∧ ∀ d ∈ rest, IsLetter d ∨ IsDigit d ∨ d = '_' ∨ d = '-'

/-- **A month**: four digits, a hyphen and two digits. -/
def IsMonth (s : String) : Prop :=
  ∃ a b c d e f, s.toList = [a, b, c, d, '-', e, f] ∧ ∀ x ∈ [a, b, c, d, e, f], IsDigit x

end Grammar

open Grammar

/-- **A text spells an identity of a protocol that ends in a name.** -/
def Protocol.Spells : Protocol → (s name : String) → Prop
  | .iscsi, s, name => IsName name ∧ ∃ month authority, IsMonth month ∧ authority ≠ ""
      ∧ ':' ∉ authority.toList ∧ s = "iqn." ++ month ++ "." ++ authority ++ ":" ++ name
  | .nfs, s, name => IsName name ∧ s = name
  | .nvmeof, s, name => IsName name ∧ s.utf8ByteSize ≤ 223 ∧ ∃ month domain, IsMonth month
      ∧ domain ≠ "" ∧ s = "nqn." ++ month ++ "." ++ domain ++ ":" ++ name

/-! ## Characters -/

namespace Grammar

lemma isAlpha_iff {c : Char} : c.isAlpha = true ↔ IsLetter c := by
  change (decide (c.val ≥ 'A'.val ∧ c.val ≤ 'Z'.val) || (c.val ≥ 'a'.val && c.val ≤ 'z'.val)) = true
    ↔ IsLetter c
  simp [IsLetter, Char.le_def]

lemma isDigit_iff {c : Char} : c.isDigit = true ↔ IsDigit c := by
  simp [Char.isDigit, IsDigit, Char.le_def]

lemma isBody_iff {c : Char} :
    ResourceName.isBody c = true ↔ IsLetter c ∨ IsDigit c ∨ c = '_' ∨ c = '-' := by
  simp [ResourceName.isBody, Char.isAlphanum, isAlpha_iff, isDigit_iff, or_assoc]

/-- A character of a name is one byte. -/
lemma utf8Size_of_isBody {c : Char} (h : ResourceName.isBody c = true) : c.utf8Size = 1 := by
  have hupper : 'Z'.val.toNat = 90 := rfl
  have hlower : 'z'.val.toNat = 122 := rfl
  have hdigit : '9'.val.toNat = 57 := rfl
  have hone : (127 : UInt32).toNat = 127 := rfl
  rw [isBody_iff] at h
  rw [Char.utf8Size_eq_one_iff, UInt32.le_iff_toNat_le]
  simp only [IsLetter, IsDigit, Char.le_def, UInt32.le_iff_toNat_le] at h
  rcases h with (h | h) | h | rfl | rfl
  · omega
  · omega
  · omega
  · decide
  · decide

lemma byteLength_eq_length {s : List Char} (h : ∀ c ∈ s, ResourceName.isBody c = true) :
    ResourceName.byteLength s = s.length := by
  induction s with
  | nil => rfl
  | cons c rest ih =>
      have hc := utf8Size_of_isBody (h c List.mem_cons_self)
      have hrest := ih fun d hd => h d (List.mem_cons_of_mem _ hd)
      rw [ResourceName.byteLength] at hrest ⊢
      rw [String.ofList_cons, String.utf8ByteSize_append, String.utf8ByteSize_singleton, hc, hrest,
        List.length_cons, Nat.add_comm]

/-! ## The parts -/

/-- **Names are the texts without fault.**  The bound is on bytes, but each character is one. -/
lemma isName_iff {s : String} : IsName s ↔ ResourceName.fault? s.toList = none := by
  constructor
  · rintro ⟨c, rest, htext, hc, hlength, hrest⟩
    have hbody : ∀ d ∈ rest, ResourceName.isBody d = true := fun d hd => isBody_iff.2 (hrest d hd)
    have hall : ∀ d ∈ c :: rest, ResourceName.isBody d = true := by
      simpa [isBody_iff.2 (.inl hc)] using hbody
    have hbound : ¬ ResourceName.maxLength < ResourceName.byteLength (c :: rest) := by
      rw [byteLength_eq_length hall, List.length_cons, ResourceName.maxLength]
      omega
    rw [htext, ResourceName.fault?, isAlpha_iff.2 hc, if_neg (by simp), if_neg hbound]
    simpa using hbody
  · intro h
    obtain ⟨c, rest, htext⟩ : ∃ c rest, s.toList = c :: rest :=
      List.exists_cons_of_ne_nil fun hnil => by simp [hnil, ResourceName.fault?] at h
    rw [htext] at h
    have hall : ∀ d ∈ c :: rest, ResourceName.isBody d = true := fun d =>
      ResourceName.isBody_of_mem h
    rw [ResourceName.fault?] at h
    split at h
    · cases h
    rename_i hc
    split at h
    · cases h
    rename_i hlength
    rw [byteLength_eq_length hall, List.length_cons, ResourceName.maxLength] at hlength
    exact ⟨c, rest, htext, isAlpha_iff.1 (by simpa using hc), by omega, fun d hd =>
      isBody_iff.1 (hall d (List.mem_cons_of_mem _ hd))⟩

lemma isMonth_iff {s : String} : IsMonth s ↔ dropMonth? s.toList = some [] := by
  constructor
  · rintro ⟨a, b, c, d, e, f, htext, hdigits⟩
    have hall : [a, b, c, d, e, f].all Char.isDigit = true :=
      List.all_eq_true.2 fun x hx => isDigit_iff.2 (hdigits x hx)
    rw [htext, dropMonth?, if_pos hall]
  · intro h
    unfold dropMonth? at h
    split at h
    · rename_i a b c d e f rest htext
      split at h
      · rename_i hall
        cases h
        exact ⟨a, b, c, d, e, f, htext, fun x hx => isDigit_iff.1 (List.all_eq_true.1 hall x hx)⟩
      · cases h
    · cases h

/-- A name holds no colon. -/
lemma IsName.colon_notMem {s : String} (h : IsName s) : ':' ∉ s.toList := fun hmem =>
  absurd (ResourceName.isBody_of_mem (isName_iff.1 h) hmem) (by decide)

lemma IsName.ne_empty {s : String} (h : IsName s) : s ≠ "" := by
  rintro rfl
  obtain ⟨c, rest, htext, -⟩ := h
  cases htext

lemma isName_ofList {s : List Char} (h : ResourceName.fault? s = none) :
    IsName (String.ofList s) :=
  isName_iff.2 (by rwa [String.toList_ofList])

end Grammar

/-! ## Reading -/

namespace Iqn

lemma spells (iqn : Iqn) : Protocol.iscsi.Spells iqn.text iqn.resourceName := by
  obtain ⟨month, authority, name, htext, hmonth, hauthority, hcolon, hname⟩ :=
    fault?_eq_none_iff.1 iqn.valid
  have hbefore : ':' ∉ month ++ '.' :: authority := by
    simp [colon_notMem_month hmonth, hcolon]
  have hresource : iqn.resourceName = String.ofList name := by
    rw [resourceName, htext, nameOf_append hbefore]
  rw [hresource]
  refine ⟨isName_ofList hname, String.ofList month, String.ofList authority, ?_, ?_, ?_, ?_⟩
  · rwa [isMonth_iff, String.toList_ofList]
  · simpa using hauthority
  · rwa [String.toList_ofList]
  · rw [← String.toList_inj, htext]
    simp

lemma exists_parse_eq_ok {s name : String} (h : Protocol.iscsi.Spells s name) :
    ∃ iqn, parse s = .ok iqn ∧ iqn.resourceName = name := by
  obtain ⟨hname, month, authority, hmonth, hauthority, hcolon, rfl⟩ := h
  rw [isMonth_iff] at hmonth
  have htext : ("iqn." ++ month ++ "." ++ authority ++ ":" ++ name).toList
      = "iqn.".toList ++ (month.toList ++ '.' :: authority.toList) ++ ':' :: name.toList := by
    simp
  have hvalid : fault? ("iqn." ++ month ++ "." ++ authority ++ ":" ++ name).toList = none :=
    fault?_eq_none_iff.2 ⟨_, _, _, htext, hmonth, by simpa using hauthority, hcolon,
      isName_iff.1 hname⟩
  have hbefore : ':' ∉ month.toList ++ '.' :: authority.toList := by
    simp [colon_notMem_month hmonth, hcolon]
  refine ⟨⟨_, hvalid⟩, parse_text ⟨_, hvalid⟩, ?_⟩
  rw [resourceName, htext, nameOf_append hbefore, String.ofList_toList]

end Iqn

namespace Nqn

lemma spells (nqn : Nqn) : Protocol.nvmeof.Spells nqn.text nqn.resourceName := by
  obtain ⟨hlength, month, domain, name, htext, hmonth, hdomain, hname⟩ :=
    fault?_eq_none_iff.1 nqn.valid
  have hisName := isName_ofList hname
  have hcolon : ':' ∉ name := by simpa using hisName.colon_notMem
  have hresource : nqn.resourceName = String.ofList name := by
    rw [resourceName, htext, nameOf_append hcolon]
  rw [hresource]
  refine ⟨hisName, ?_, String.ofList month, String.ofList domain, ?_, ?_, ?_⟩
  · rwa [ResourceName.byteLength, String.ofList_toList] at hlength
  · rwa [isMonth_iff, String.toList_ofList]
  · simpa using hdomain
  · rw [← String.toList_inj, htext]
    simp

lemma exists_parse_eq_ok {s name : String} (h : Protocol.nvmeof.Spells s name) :
    ∃ nqn, parse s = .ok nqn ∧ nqn.resourceName = name := by
  obtain ⟨hname, hlength, month, domain, hmonth, hdomain, rfl⟩ := h
  have htext : ("nqn." ++ month ++ "." ++ domain ++ ":" ++ name).toList
      = "nqn.".toList ++ (month.toList ++ '.' :: domain.toList) ++ ':' :: name.toList := by
    simp
  have hbytes : ResourceName.byteLength ("nqn." ++ month ++ "." ++ domain ++ ":" ++ name).toList
      ≤ maxLength := by
    rwa [ResourceName.byteLength, String.ofList_toList]
  have hvalid : fault? ("nqn." ++ month ++ "." ++ domain ++ ":" ++ name).toList = none :=
    fault?_eq_none_iff.2 ⟨hbytes, _, _, _, htext, isMonth_iff.1 hmonth, by simpa using hdomain,
      isName_iff.1 hname⟩
  refine ⟨⟨_, hvalid⟩, parse_text ⟨_, hvalid⟩, ?_⟩
  rw [resourceName, htext, nameOf_append hname.colon_notMem, String.ofList_toList]

end Nqn

namespace Protocol

variable {p : Protocol} {s : String}

/-- What is read spells the text that it was read from, with its resource at the end. -/
lemma spells_of_parseIdentity {id : p.Identity} (h : p.parseIdentity s = .ok id) :
    identityText id = s ∧ p.Spells s (resourceName id) := by
  cases p with
  | iscsi =>
      obtain rfl := Iqn.text_of_parse h
      exact ⟨rfl, Iqn.spells id⟩
  | nfs =>
      obtain ⟨_, hcheck, rfl⟩ := map_eq_ok_iff.1 h
      exact ⟨rfl, isName_iff.2 (ResourceName.check_eq_ok_iff.1 hcheck), rfl⟩
  | nvmeof =>
      obtain rfl := Nqn.text_of_parse h
      exact ⟨rfl, Nqn.spells id⟩

lemma exists_parseIdentity_eq_ok {name : String} (h : p.Spells s name) :
    ∃ id, p.parseIdentity s = .ok id ∧ resourceName id = name := by
  cases p with
  | iscsi => exact Iqn.exists_parse_eq_ok h
  | nfs =>
      obtain ⟨hname, rfl⟩ := h
      refine ⟨s, ?_, rfl⟩
      rw [parseIdentity, ResourceName.check_eq_ok_iff.2 (isName_iff.1 hname)]
      rfl
  | nvmeof => exact Nqn.exists_parse_eq_ok h

lemma Spells.isName {name : String} (h : p.Spells s name) : IsName name := by
  cases p <;> exact h.1

/-- **Exactly the spelled texts are read.**  The identity prints as the text that it was read from,
its resource is the one name that the text ends in, and the id of its configuration leads back to
that name. -/
theorem parseIdentity_iff_spells (p : Protocol) (s : String) :
    ((∃ id, p.parseIdentity s = .ok id) ↔ ∃ name, p.Spells s name)
      ∧ ∀ id, p.parseIdentity s = .ok id →
        identityText id = s
          ∧ (∀ name, p.Spells s name ↔ name = resourceName id)
          ∧ p.resourceOfConfigId (configId id) = some (resourceName id) := by
  refine ⟨⟨fun ⟨id, h⟩ => ⟨_, (spells_of_parseIdentity h).2⟩, fun ⟨name, h⟩ => ?_⟩, fun id h => ?_⟩
  · obtain ⟨id, hid, -⟩ := exists_parseIdentity_eq_ok h
    exact ⟨id, hid⟩
  · obtain ⟨htext, hspells⟩ := spells_of_parseIdentity h
    refine ⟨htext, fun name => ⟨fun hname => ?_, fun hname => hname ▸ hspells⟩,
      (resourceOfConfigId_configId hspells.isName.ne_empty).2 ⟨rfl, rfl⟩⟩
    obtain ⟨other, hother, rfl⟩ := exists_parseIdentity_eq_ok hname
    rw [h] at hother
    cases hother
    rfl

/-- An NQN whose domain goes on after a colon. -/
def nestedNqn : Protocol.nvmeof.Identity :=
  (⟨"nqn.2021-08.com.example:rack:disk_1", by decide +kernel⟩ : Nqn)

/-- What stands after the last colon is the resource, whatever stands after the first one. -/
theorem parseIdentity_nestedNqn :
    Protocol.nvmeof.parseIdentity "nqn.2021-08.com.example:rack:disk_1" = .ok nestedNqn
      ∧ (∀ name, Protocol.nvmeof.Spells "nqn.2021-08.com.example:rack:disk_1" name
        ↔ name = "disk_1")
      ∧ Protocol.nvmeof.resourceOfConfigId "nvmeof-disk_1" = some "disk_1" := by
  have hread : Protocol.nvmeof.parseIdentity "nqn.2021-08.com.example:rack:disk_1"
      = .ok nestedNqn := Nqn.parse_text nestedNqn
  have hresource : resourceName nestedNqn = "disk_1" := by decide +kernel
  have hid : configId nestedNqn = "nvmeof-disk_1" := by decide +kernel
  obtain ⟨-, hname, hconfig⟩ := (parseIdentity_iff_spells .nvmeof _).2 _ hread
  rw [hresource] at hname
  rw [hresource, hid] at hconfig
  exact ⟨hread, hname, hconfig⟩

end Protocol

end FailoverStorage

import FailoverStorage.Endpoint.Recovery
import FailoverStorage.Proofs.Data.Except
import FailoverStorage.Proofs.Text.Split

/-!
# Ids of configurations

An id of a configuration begins with the tag of its protocol, and no tag contains the hyphen after
it.  So an id tells the protocol and the name of the resource (`Protocol.configId_inj`), it fits the
template of that protocol alone (`Protocol.resourceOfConfigId_configId`), and a path tells the id.
An endpoint is only ever read from a configuration of its own id (`Endpoint.configId_ofPromoter`).
-/

namespace FailoverStorage

namespace Protocol

lemma tag_append_inj {p q : Protocol} {m n : String} (h : p.tag ++ "-" ++ m = q.tag ++ "-" ++ n) :
    p = q ∧ m = n := by
  have hlist := congrArg String.toList h
  simp only [String.toList_append] at hlist
  cases p <;> cases q <;> simp [tag] at hlist
  all_goals exact ⟨rfl, String.toList_inj.1 hlist⟩

/-- **An id tells the protocol and the resource.** -/
lemma configId_inj {p q : Protocol} {id : p.Identity} {other : q.Identity}
    (h : configId id = configId other) : p = q ∧ resourceName id = resourceName other :=
  tag_append_inj h

/-- **An id fits the template of a protocol** if it is the tag, a hyphen and a name. -/
lemma resourceOfConfigId_eq_some_iff {p : Protocol} {id name : String} :
    p.resourceOfConfigId id = some name ↔ id = p.tag ++ "-" ++ name ∧ name ≠ "" := by
  rw [resourceOfConfigId]
  constructor
  · intro h
    split at h
    · rename_i c rest hdrop
      cases h
      rw [Text.dropStart_eq_some_iff] at hdrop
      refine ⟨String.toList_inj.1 ?_, fun hempty => ?_⟩
      · simp [hdrop]
      · simpa using congrArg String.toList hempty
    · cases h
  · rintro ⟨rfl, hne⟩
    obtain ⟨c, rest, hname⟩ : ∃ c rest, name.toList = c :: rest :=
      List.exists_cons_of_ne_nil fun hnil => hne (String.toList_inj.1 hnil)
    rw [(String.toList_append : (p.tag ++ "-" ++ name).toList = _), Text.dropStart_append, hname]
    exact congrArg some (hname ▸ String.ofList_toList)

/-- **The id of an endpoint fits the template of its own protocol alone**, and names its
resource. -/
lemma resourceOfConfigId_configId {p q : Protocol} {id : p.Identity} {name : String}
    (hid : resourceName id ≠ "") :
    q.resourceOfConfigId (configId id) = some name ↔ q = p ∧ name = resourceName id := by
  rw [resourceOfConfigId_eq_some_iff]
  constructor
  · rintro ⟨h, -⟩
    obtain ⟨hprotocol, hname⟩ := tag_append_inj h
    exact ⟨hprotocol.symm, hname.symm⟩
  · rintro ⟨rfl, rfl⟩
    exact ⟨rfl, hid⟩

end Protocol

lemma PromoterConfig.pathOf_inj {id other : String} (h : pathOf id = pathOf other) :
    id = other := by
  unfold pathOf at h
  exact (String.append_right_inj _).1 ((String.append_left_inj _).1 h)

namespace Endpoint

variable {p : Protocol}

lemma checkConfigId_eq_ok {c : PromoterConfig} {id : p.Identity} {x : Unit}
    (h : checkConfigId c id = .ok x) : c.id = Protocol.configId id := by
  rw [checkConfigId] at h
  split at h
  · assumption
  · cases h

/-- **An endpoint is only read from a configuration of its own id** that manages its resource. -/
lemma managed_of_ofPromoter {c : PromoterConfig} {definition : Option ResourceDefinition}
    {volumeDefinitions : List VolumeDefinition} {e : Endpoint p}
    (h : ofPromoter p c definition volumeDefinitions = .ok e) :
    e.configId = c.id ∧ ∃ r, c.resource = .ok (e.resourceName, r) := by
  cases p with
  | iscsi =>
      rw [ofPromoter, targetOf] at h
      obtain ⟨⟨resource, r⟩, hresource, h⟩ := bind_eq_ok_iff.1 h
      obtain ⟨target, -, h⟩ := bind_eq_ok_iff.1 h
      obtain ⟨text, -, h⟩ := bind_eq_ok_iff.1 h
      obtain ⟨iqn, -, h⟩ := bind_eq_ok_iff.1 h
      simp only at h
      split at h
      · cases h
      rename_i hname
      obtain ⟨_, hid, h⟩ := bind_eq_ok_iff.1 h
      obtain ⟨allowed, -, h⟩ := bind_eq_ok_iff.1 h
      obtain ⟨numbers, -, h⟩ := bind_eq_ok_iff.1 h
      obtain ⟨ips, -, h⟩ := bind_eq_ok_iff.1 h
      cases h
      obtain rfl : iqn.resourceName = resource := Decidable.not_not.1 hname
      exact ⟨(checkConfigId_eq_ok hid).symm, r, hresource⟩
  | nfs =>
      rw [ofPromoter, exportOf] at h
      obtain ⟨⟨name, r⟩, hresource, h⟩ := bind_eq_ok_iff.1 h
      obtain ⟨_, hid, h⟩ := bind_eq_ok_iff.1 h
      obtain ⟨server, -, h⟩ := bind_eq_ok_iff.1 h
      obtain ⟨ips, -, h⟩ := bind_eq_ok_iff.1 h
      obtain ⟨numbers, -, h⟩ := bind_eq_ok_iff.1 h
      obtain ⟨path, -, h⟩ := bind_eq_ok_iff.1 h
      obtain ⟨networks, -, h⟩ := bind_eq_ok_iff.1 h
      cases h
      exact ⟨(checkConfigId_eq_ok hid).symm, r, hresource⟩
  | nvmeof =>
      rw [ofPromoter, subsystemOf] at h
      obtain ⟨⟨resource, r⟩, hresource, h⟩ := bind_eq_ok_iff.1 h
      obtain ⟨subsystem, -, h⟩ := bind_eq_ok_iff.1 h
      obtain ⟨text, -, h⟩ := bind_eq_ok_iff.1 h
      obtain ⟨nqn, -, h⟩ := bind_eq_ok_iff.1 h
      simp only at h
      split at h
      · cases h
      rename_i hname
      obtain ⟨_, hid, h⟩ := bind_eq_ok_iff.1 h
      obtain ⟨portAgent, -, h⟩ := bind_eq_ok_iff.1 h
      obtain ⟨port, -, h⟩ := bind_eq_ok_iff.1 h
      obtain ⟨numbers, -, h⟩ := bind_eq_ok_iff.1 h
      obtain ⟨ips, -, h⟩ := bind_eq_ok_iff.1 h
      cases h
      obtain rfl : nqn.resourceName = resource := Decidable.not_not.1 hname
      exact ⟨(checkConfigId_eq_ok hid).symm, r, hresource⟩

lemma configId_ofPromoter {c : PromoterConfig} {definition : Option ResourceDefinition}
    {volumeDefinitions : List VolumeDefinition} {e : Endpoint p}
    (h : ofPromoter p c definition volumeDefinitions = .ok e) : e.configId = c.id :=
  (managed_of_ofPromoter h).1

end Endpoint

end FailoverStorage

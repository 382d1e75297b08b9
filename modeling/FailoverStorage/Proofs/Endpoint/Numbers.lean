import FailoverStorage.Proofs.Endpoint.Recovery

/-!
# Volume numbers in configurations

An agent that exports or mounts a data volume tells the volume's number, in an attribute or in its
own name (`Agent.volumeNumber?`).  In the configuration of an endpoint there are no other numbers
than those of the endpoint's volumes (`Endpoint.exists_mem_volumes_of_volumeNumber?`).
-/

namespace FailoverStorage

open Text

namespace Agent

/-! ## Agents of data volumes -/

/-- The kinds of the agents that can be about a data volume. -/
def volumeKinds : List String := [logicalUnitKind, namespaceKind, fileSystemKind, exportKind]

/-- **The number of the data volume that an agent is about**, for those that are about one. -/
def volumeNumber? (a : Agent) : Option UInt32 :=
  if a.kind = logicalUnitKind then (a.get? "lun").bind word32?
  else if a.kind = namespaceKind then (a.get? "namespace_id").bind word32?
  else if a.kind = fileSystemKind then
    (dropStart "fs_".toList a.name.toList).bind fun n => word32? (String.ofList n)
  else if a.kind = exportKind then
    ((dropStart "export_".toList a.name.toList).bind (splitFirst '_')).bind fun (n, _) =>
      word32? (String.ofList n)
  else none

/-- An agent of another kind is about no data volume. -/
lemma volumeNumber?_eq_none {a : Agent} (kind : String) (hkind : a.kind = kind)
    (h : kind ∉ volumeKinds) : a.volumeNumber? = none := by
  simp only [volumeKinds, List.mem_cons, List.not_mem_nil, or_false, not_or] at h
  obtain ⟨hunit, hspace, hmount, hexport⟩ := h
  rw [volumeNumber?, hkind, if_neg hunit, if_neg hspace, if_neg hmount, if_neg hexport]

/-- The name of a mount tells whether it is of a data volume. -/
lemma volumeNumber?_mount (name device directory fileSystem : String) :
    (mount name device directory fileSystem).volumeNumber?
      = (dropStart "fs_".toList name.toList).bind fun n => word32? (String.ofList n) := by
  rw [volumeNumber?]
  simp only [Endpoint.kind_mount, logicalUnitKind, namespaceKind, fileSystemKind,
    Endpoint.shared_inj]
  rw [if_neg (by decide), if_neg (by decide), if_pos trivial]
  rfl

end Agent

namespace Endpoint

open Agent

variable {p : Protocol}

/-! ## Agents of the service -/

lemma volumeNumber?_unitAgent (iqn : Iqn) (placements : List Placement) (v : Volume) :
    (unitAgent iqn placements v).volumeNumber? = some v.number := by
  have hkind : (unitAgent iqn placements v).kind = logicalUnitKind := rfl
  rw [volumeNumber?, if_pos hkind, get?_unitAgent, Option.bind_some, word32?_decimal]

lemma volumeNumber?_namespaceAgent (nqn : Nqn) (placements : List Placement) (v : Volume) :
    (namespaceAgent nqn placements v).volumeNumber? = some v.number := by
  have hkind : (namespaceAgent nqn placements v).kind = namespaceKind := rfl
  have hne : namespaceKind ≠ logicalUnitKind := by simp [namespaceKind, logicalUnitKind]
  have hnumber : (namespaceAgent nqn placements v).get? "namespace_id"
      = some (decimal v.number.toNat) := by
    simp [namespaceAgent, get?, ofList, SortedMap.find?_ofList]
  rw [volumeNumber?, hkind, if_neg hne, if_pos rfl, hnumber, Option.bind_some, word32?_decimal]

lemma volumeNumber?_mountAgent (name exportPath : String) (placements : List Placement)
    (v : Volume) : (mountAgent name exportPath placements v).volumeNumber? = some v.number := by
  rw [mountAgent, volumeNumber?_mount, String.toList_append, dropStart_append, Option.bind_some,
    String.ofList_toList, word32?_decimal]

lemma volumeNumber?_of_mem_exportAgents {name : String} {s : NfsSettings} {v : Volume} {a : Agent}
    (ha : a ∈ exportAgents name s v) : a.volumeNumber? = some v.number := by
  obtain ⟨⟨ip, i⟩, -, rfl⟩ := List.mem_map.1 ha
  have hdigits : '_' ∉ (decimal v.number.toNat).toList := notMem_decimal rfl _
  have hname : ("export_" ++ decimal v.number.toNat ++ "_" ++ decimal i).toList
      = "export_".toList ++ ((decimal v.number.toNat).toList ++ '_' :: (decimal i).toList) := by
    simp [String.toList_append]
  rw [volumeNumber?]
  simp only [ofList, exportKind, logicalUnitKind, namespaceKind, fileSystemKind, shared_inj]
  rw [if_neg (by decide), if_neg (by decide), if_neg (by decide), if_pos trivial, hname,
    dropStart_append, Option.bind_some, splitFirst_append hdigits, Option.bind_some,
    String.ofList_toList, word32?_decimal]

lemma volumeNumber?_volumeAgent (e : Endpoint p) (placements : List Placement) (v : Volume) :
    (volumeAgent e placements v).volumeNumber? = some v.number := by
  cases p with
  | iscsi => exact volumeNumber?_unitAgent _ _ v
  | nfs => exact volumeNumber?_mountAgent _ _ _ v
  | nvmeof => exact volumeNumber?_namespaceAgent _ _ v

lemma volumeNumber?_of_mem_exportsOf {e : Endpoint p} {v : Volume} {a : Agent}
    (ha : a ∈ exportsOf e v) : a.volumeNumber? = some v.number := by
  cases p with
  | nfs => exact volumeNumber?_of_mem_exportAgents ha
  | _ => cases ha

/-- The mount of the cluster-private volume is not about a data volume. -/
lemma volumeNumber?_mount_private (device directory fileSystem : String) :
    (mount "fs_cluster_private" device directory fileSystem).volumeNumber? = none := by
  rw [volumeNumber?_mount]
  decide

/-! ## Whole configurations -/

/-- What stands around a service is not about data volumes. -/
lemma mem_service_of_volumeNumber? {e : Endpoint p} {service : List Agent}
    {placements : List Placement} {a : Agent} (ha : a ∈ agentsAround e service placements)
    {number : UInt32} (hnumber : a.volumeNumber? = some number) : a ∈ service := by
  have hnone : a.volumeNumber? ≠ none := by
    rw [hnumber]
    exact Option.some_ne_none _
  rcases agentsAround_cases ha with ⟨_, _, rfl⟩ | ⟨_, -, _, _, _, _, rfl⟩ | ⟨_, _, rfl⟩ | ha
  · exact absurd (volumeNumber?_mount_private _ _ _) hnone
  · exact absurd (volumeNumber?_eq_none portBlockKind rfl (by decide)) hnone
  · exact absurd (volumeNumber?_eq_none addressKind rfl (by decide)) hnone
  · exact ha

/-- **The numbers in a configuration are those of the endpoint's volumes.** -/
theorem exists_mem_volumes_of_volumeNumber? {e : Endpoint p} {placements : List Placement}
    {c : PromoterConfig} (hc : e.toPromoter placements = .ok c) {a : Agent} (ha : a ∈ c.agents)
    {number : UInt32} (hnumber : a.volumeNumber? = some number) :
    ∃ v ∈ e.volumes, v.number = number := by
  obtain ⟨service, hservice, rfl⟩ := toPromoter_eq_ok_iff.1 hc
  rw [agents_single] at ha
  replace ha := mem_service_of_volumeNumber? ha hnumber
  -- an agent of the service is made from a volume and tells its number, or is of another kind
  have hfirst : firstKind p ∉ volumeKinds := by cases p <;> decide
  have hport : nvmePortKind ∉ volumeKinds := by decide
  rcases mem_service_cases hservice ha with hkind | ⟨v, hv, rfl⟩ | ⟨v, hv, hexport⟩ | hkind
  · rw [volumeNumber?_eq_none _ hkind hfirst] at hnumber
    cases hnumber
  · rw [volumeNumber?_volumeAgent] at hnumber
    exact ⟨v, hv, Option.some.inj hnumber⟩
  · rw [volumeNumber?_of_mem_exportsOf hexport] at hnumber
    exact ⟨v, hv, Option.some.inj hnumber⟩
  · rw [volumeNumber?_eq_none _ hkind hport] at hnumber
    cases hnumber

end Endpoint

end FailoverStorage

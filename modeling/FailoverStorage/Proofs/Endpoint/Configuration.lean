import FailoverStorage.Endpoint.Configuration
import FailoverStorage.Proofs.Endpoint.Settled
import FailoverStorage.Proofs.Promoter.Line

/-!
# Configurations of endpoints

Four facts about the configuration of an endpoint, whatever its protocol.

**Existence.**  Only an export without service IPs has none (`exists_toPromoter_iff`), and no
settled endpoint is one.  A configuration has the endpoint's id and manages the endpoint's resource
alone (`toPromoter_eq_ok_iff`).

**Parts.**  Every service has the same parts, some of which are empty for some protocols
(`exists_service_eq`).  What holds of each part holds of all services (`mem_service_cases`).

**Shape.**  Every agent can be written as a line (`writable_of_mem_agents`), because kinds, names
and keys are fixed words and numbers.

**Dependence.**  Of the placements only the device paths matter, and of the endpoint neither the
sizes of its volumes nor its group nor its status (`agents_congr`).
-/

namespace FailoverStorage.Endpoint

open Text Agent

variable {p : Protocol}

/-! ## The agents of an endpoint -/

/-- The agents of an endpoint around those of its service. -/
def agentsAround (e : Endpoint p) (service : List Agent) (placements : List Placement) :
    List Agent :=
  leadingAgents e.resourceName e.serviceIps (ports e.settings) placements ++ service
    ++ trailingAgents e.serviceIps (ports e.settings)

/-- **The configuration of an endpoint** has its id, its resource and its agents. -/
lemma toPromoter_eq_ok_iff {e : Endpoint p} {placements : List Placement} {c : PromoterConfig} :
    e.toPromoter placements = .ok c ↔ ∃ service, serviceAgents e placements = .ok service
      ∧ c = .single e.configId e.resourceName (agentsAround e service placements) := by
  rw [toPromoter, bind_eq_ok_iff]
  constructor
  · rintro ⟨service, hservice, h⟩
    cases h
    exact ⟨service, hservice, rfl⟩
  · rintro ⟨service, hservice, rfl⟩
    exact ⟨service, hservice, rfl⟩

lemma agents_single (id resource : String) (start : List Agent) :
    (PromoterConfig.single id resource start).agents = start := by
  simp [PromoterConfig.single, PromoterConfig.agents, SortedMap.values, SortedMap.insert,
    SortedMap.empty, insertEntry]

/-- An agent of an endpoint mounts the private volume, blocks ports, claims an address or belongs to
the service. -/
lemma agentsAround_cases {e : Endpoint p} {service : List Agent} {placements : List Placement}
    {a : Agent} (ha : a ∈ agentsAround e service placements) :
    (∃ device directory, a = mount "fs_cluster_private" device directory "ext4")
      ∨ (∃ start ∈ ["portblock", "portunblock"], ∃ i ip ports action,
        a = portBlock (start ++ decimal i) ip ports action)
      ∨ (∃ i ip, a = claim i ip) ∨ a ∈ service := by
  rw [agentsAround, leadingAgents, trailingAgents] at ha
  rcases List.mem_append.1 ha with ha | ha
  · rcases List.mem_append.1 ha with ha | ha
    · rcases List.mem_append.1 ha with ha | ha
      · rcases List.mem_cons.1 ha with rfl | ha
        · exact .inl ⟨_, _, rfl⟩
        · obtain ⟨⟨ip, i⟩, -, rfl⟩ := List.mem_map.1 ha
          exact .inr (.inl ⟨"portblock", by simp, i, ip, _, _, rfl⟩)
      · obtain ⟨⟨ip, i⟩, -, rfl⟩ := List.mem_map.1 ha
        exact .inr (.inr (.inl ⟨i, ip, rfl⟩))
    · exact .inr (.inr (.inr ha))
  · obtain ⟨⟨ip, i⟩, -, rfl⟩ := List.mem_map.1 ha
    exact .inr (.inl ⟨"portunblock", by simp, i, ip, _, _, rfl⟩)

/-- An endpoint whose settings pass their check has the addresses that its service needs. -/
lemma exists_serviceAgents {e : Endpoint p} (h : checkSettings e.serviceIps e.settings = .ok ())
    (placements : List Placement) : ∃ service, serviceAgents e placements = .ok service := by
  cases p with
  | iscsi => exact ⟨_, rfl⟩
  | nfs =>
      cases hips : e.serviceIps with
      | nil =>
          rw [hips] at h
          simp [checkSettings] at h
      | cons ip ips =>
          simp only [serviceAgents, hips]
          exact ⟨_, rfl⟩
  | nvmeof => exact ⟨_, rfl⟩

lemma Settled.exists_toPromoter {e : Endpoint p} (h : e.Settled) (placements : List Placement) :
    ∃ c, e.toPromoter placements = .ok c := by
  obtain ⟨service, hservice⟩ := exists_serviceAgents h.checked placements
  exact ⟨_, toPromoter_eq_ok_iff.2 ⟨service, hservice, rfl⟩⟩

/-- **Only an export needs a service IP to be written.** -/
lemma exists_toPromoter_iff {e : Endpoint p} {placements : List Placement} :
    (∃ d, e.toPromoter placements = .ok d) ↔ (p = .nfs → e.serviceIps ≠ []) := by
  have hwritten : (∃ d, e.toPromoter placements = .ok d)
      ↔ ∃ service, serviceAgents e placements = .ok service := by
    simp only [toPromoter_eq_ok_iff]
    exact ⟨fun ⟨_, service, h, _⟩ => ⟨service, h⟩, fun ⟨service, h⟩ => ⟨_, service, h, rfl⟩⟩
  rw [hwritten]
  cases p with
  | iscsi => exact ⟨fun _ h => (nomatch h), fun _ => ⟨_, rfl⟩⟩
  | nvmeof => exact ⟨fun _ h => (nomatch h), fun _ => ⟨_, rfl⟩⟩
  | nfs =>
      cases hips : e.serviceIps with
      | nil => simp [serviceAgents, hips]
      | cons ip ips => simp [serviceAgents, hips]

/-! ## What a service consists of -/

/-- The kind of the agent that comes first in a service. -/
def firstKind : Protocol → String
  | .iscsi => iscsiTargetKind
  | .nfs => nfsServerKind
  | .nvmeof => subsystemKind

/-- The kind of the agents that have a volume each. -/
def volumeKind : Protocol → String
  | .iscsi => logicalUnitKind
  | .nfs => fileSystemKind
  | .nvmeof => namespaceKind

/-- **The agent of a volume**: a logical unit, a mount or a namespace. -/
def volumeAgent : {p : Protocol} → Endpoint p → List Placement → Volume → Agent
  | .iscsi, e, placements, v => unitAgent e.identity placements v
  | .nfs, e, placements, v =>
    mountAgent e.identity (e.settings : NfsSettings).exportPath placements v
  | .nvmeof, e, placements, v => namespaceAgent e.identity placements v

/-- The agents that export a volume. -/
def exportsOf : {p : Protocol} → Endpoint p → Volume → List Agent
  | .nfs, e, v => exportAgents e.identity e.settings v
  | .iscsi, _, _ | .nvmeof, _, _ => []

/-- One agent for each service IP, which it may tell from others by position. -/
def eachIp (e : Endpoint p) (agent : ServiceIp → Nat → Agent) : List Agent :=
  e.serviceIps.zipIdx.map fun x => agent x.1 x.2

/-- The agents of the ports at which a subsystem is reached. -/
def portsOf : {p : Protocol} → Endpoint p → List Agent
  | .nvmeof, e => e.eachIp (portAgent e.identity (ports e.settings))
  | .iscsi, _ | .nfs, _ => []

lemma kind_volumeAgent (e : Endpoint p) (placements : List Placement) (v : Volume) :
    (volumeAgent e placements v).kind = volumeKind p := by
  cases p <;> rfl

lemma kind_of_mem_exportsOf {e : Endpoint p} {v : Volume} {a : Agent} (ha : a ∈ exportsOf e v) :
    a.kind = exportKind := by
  cases p with
  | nfs =>
      obtain ⟨x, -, rfl⟩ := List.mem_map.1 ha
      rfl
  | _ => cases ha

lemma kind_of_mem_portsOf {e : Endpoint p} {a : Agent} (ha : a ∈ portsOf e) :
    a.kind = nvmePortKind := by
  cases p with
  | nvmeof =>
      obtain ⟨x, -, rfl⟩ := List.mem_map.1 ha
      rfl
  | _ => cases ha

section

variable {e : Endpoint p} {placements : List Placement} {service : List Agent}
  (h : serviceAgents e placements = .ok service)

include h

/-- **A service in its parts**: one agent, an agent for each volume, the exports and the ports. -/
lemma exists_service_eq : ∃ first, first.kind = firstKind p
    ∧ service = first :: e.volumes.map (volumeAgent e placements)
      ++ e.volumes.flatMap (exportsOf e) ++ portsOf e := by
  have hnone : e.volumes.flatMap (fun _ => ([] : List Agent)) = [] := by simp
  cases p with
  | iscsi =>
      cases h
      refine ⟨targetAgent e.identity e.serviceIps e.settings, rfl, ?_⟩
      show _ = _ :: _ ++ e.volumes.flatMap (fun _ => []) ++ []
      rw [hnone, List.append_nil, List.append_nil]
      rfl
  | nfs =>
      cases hips : e.serviceIps with
      | nil =>
          rw [serviceAgents, hips] at h
          cases h
      | cons ip ips =>
          rw [serviceAgents, hips] at h
          cases h
          exact ⟨serverAgent e.identity ip, rfl, (List.append_nil _).symm⟩
  | nvmeof =>
      cases h
      refine ⟨subsystemAgent e.identity, rfl, ?_⟩
      show _ = _ :: _ ++ e.volumes.flatMap (fun _ => []) ++ _
      rw [hnone, List.append_nil]
      rfl

/-- **An agent of a service** comes first, has a volume, exports one or is a port. -/
lemma mem_service_cases {a : Agent} (ha : a ∈ service) :
    a.kind = firstKind p ∨ (∃ v ∈ e.volumes, a = volumeAgent e placements v)
      ∨ (∃ v ∈ e.volumes, a ∈ exportsOf e v) ∨ a.kind = nvmePortKind := by
  obtain ⟨first, hfirst, rfl⟩ := exists_service_eq h
  rcases List.mem_append.1 ha with ha | ha
  · rcases List.mem_append.1 ha with ha | ha
    · rcases List.mem_cons.1 ha with rfl | ha
      · exact .inl hfirst
      · obtain ⟨v, hv, rfl⟩ := List.mem_map.1 ha
        exact .inr (.inl ⟨v, hv, rfl⟩)
    · exact .inr (.inr (.inl (List.mem_flatMap.1 ha)))
  · exact .inr (.inr (.inr (kind_of_mem_portsOf ha)))

end

/-! ## Writable agents -/

/-- The kinds of agents. -/
def agentKinds : List String :=
  [fileSystemKind, addressKind, portBlockKind, nfsServerKind, exportKind, iscsiTargetKind,
    logicalUnitKind, subsystemKind, namespaceKind, nvmePortKind]

/-- What the names of agents are made of besides numbers. -/
def nameParts : List String :=
  ["fs_cluster_private", "portblock", "portunblock", "service_ip", "target", "lu", "nfsserver",
    "fs_", "export_", "_", "subsys", "ns", "port"]

/-- The keys of attributes. -/
def attributeKeys : List String :=
  ["device", "directory", "fstype", "run_fsck", "ip", "portno", "action", "protocol",
    "cidr_netmask", "iqn", "implementation", "portals", "incoming_username", "incoming_password",
    "allowed_initiators", "target_iqn", "lun", "path", "product_id", "scsi_sn", "nfs_ip",
    "nfs_shared_infodir", "nfs_server_scope", "clientspec", "allowed_ip", "fsid", "options",
    "wait_for_leasetime_on_stop", "nqn", "serial", "allowed_hosts", "namespace_id", "uuid",
    "backing_path", "nqns", "addr", "svcid", "type", "addr_fam"]

lemma isWord_of_mem_agentKinds : ∀ kind ∈ agentKinds, IsWord kind := by decide +kernel

lemma isWord_of_mem_nameParts : ∀ part ∈ nameParts, IsWord part := by decide +kernel

lemma isWord_of_mem_attributeKeys : ∀ key ∈ attributeKeys, IsWord key ∧ '=' ∉ key.toList := by
  decide +kernel

/-- A part of a name with a number after it. -/
lemma isWord_numbered {part : String} (h : part ∈ nameParts) (n : Nat) :
    IsWord (part ++ decimal n) :=
  isWord_append (isWord_of_mem_nameParts part h) (isWord_decimal n)

/-- An agent of a known kind with known keys can be written. -/
lemma writable_ofList_of_mem {kind name : String} {attributes : List (String × String)}
    (hkind : kind ∈ agentKinds) (hname : IsWord name)
    (hkeys : attributes.map (·.1) ⊆ attributeKeys) : (ofList kind name attributes).Writable :=
  writable_ofList (isWord_of_mem_agentKinds kind hkind) hname fun key hkey =>
    isWord_of_mem_attributeKeys key (hkeys hkey)

lemma writable_mount {name : String} (hname : IsWord name) (device directory fileSystem : String) :
    (mount name device directory fileSystem).Writable :=
  writable_ofList_of_mem (by simp [agentKinds]) hname (by simp [attributeKeys])

lemma writable_portBlock {name : String} (hname : IsWord name) (ip : ServiceIp)
    (ports action : String) : (portBlock name ip ports action).Writable :=
  writable_ofList_of_mem (by simp [agentKinds]) hname (by simp [attributeKeys])

lemma writable_claim (i : Nat) (ip : ServiceIp) : (claim i ip).Writable :=
  writable_ofList_of_mem (by simp [agentKinds]) (isWord_numbered (by simp [nameParts]) i)
    (by simp [attributeKeys])

lemma writable_targetAgent (iqn : Iqn) (ips : List ServiceIp) (s : IscsiSettings) :
    (targetAgent iqn ips s).Writable := by
  refine writable_ofList_of_mem (by simp [agentKinds])
    (isWord_of_mem_nameParts _ (by simp [nameParts])) ?_
  split_ifs <;> simp [attributeKeys]

lemma writable_unitAgent (iqn : Iqn) (placements : List Placement) (v : Volume) :
    (unitAgent iqn placements v).Writable :=
  writable_ofList_of_mem (by simp [agentKinds]) (isWord_numbered (by simp [nameParts]) _)
    (by simp [attributeKeys])

lemma writable_serverAgent (name : String) (ip : ServiceIp) : (serverAgent name ip).Writable :=
  writable_ofList_of_mem (by simp [agentKinds])
    (isWord_of_mem_nameParts _ (by simp [nameParts])) (by simp [attributeKeys])

lemma writable_mountAgent (name exportPath : String) (placements : List Placement) (v : Volume) :
    (mountAgent name exportPath placements v).Writable :=
  writable_mount (isWord_numbered (by simp [nameParts]) _) _ _ _

lemma writable_of_mem_exportAgents {name : String} {s : NfsSettings} {v : Volume} {a : Agent}
    (ha : a ∈ exportAgents name s v) : a.Writable := by
  obtain ⟨⟨ip, i⟩, -, rfl⟩ := List.mem_map.1 ha
  have hseparator : IsWord "_" := isWord_of_mem_nameParts "_" (by simp [nameParts])
  exact writable_ofList_of_mem (by simp [agentKinds])
    (isWord_append (isWord_append (isWord_numbered (by simp [nameParts]) _) hseparator)
      (isWord_decimal i)) (by simp [attributeKeys])

lemma writable_subsystemAgent (nqn : Nqn) : (subsystemAgent nqn).Writable :=
  writable_ofList_of_mem (by simp [agentKinds])
    (isWord_of_mem_nameParts _ (by simp [nameParts])) (by simp [attributeKeys])

lemma writable_namespaceAgent (nqn : Nqn) (placements : List Placement) (v : Volume) :
    (namespaceAgent nqn placements v).Writable :=
  writable_ofList_of_mem (by simp [agentKinds]) (isWord_numbered (by simp [nameParts]) _)
    (by simp [attributeKeys])

lemma writable_portAgent (nqn : Nqn) (port : String) (ip : ServiceIp) (i : Nat) :
    (portAgent nqn port ip i).Writable :=
  writable_ofList_of_mem (by simp [agentKinds]) (isWord_numbered (by simp [nameParts]) i)
    (by simp [attributeKeys])

lemma writable_of_mem_serviceAgents {e : Endpoint p} {placements : List Placement}
    {service : List Agent} (h : serviceAgents e placements = .ok service) :
    ∀ a ∈ service, a.Writable := by
  intro a ha
  cases p with
  | iscsi =>
      cases h
      rcases List.mem_cons.1 ha with rfl | ha
      · exact writable_targetAgent _ _ _
      · obtain ⟨v, -, rfl⟩ := List.mem_map.1 ha
        exact writable_unitAgent _ _ _
  | nfs =>
      cases hips : e.serviceIps with
      | nil =>
          rw [serviceAgents, hips] at h
          cases h
      | cons ip ips =>
          rw [serviceAgents, hips] at h
          cases h
          rcases List.mem_append.1 ha with ha | ha
          · rcases List.mem_cons.1 ha with rfl | ha
            · exact writable_serverAgent _ _
            · obtain ⟨v, -, rfl⟩ := List.mem_map.1 ha
              exact writable_mountAgent _ _ _ _
          · obtain ⟨v, -, ha⟩ := List.mem_flatMap.1 ha
            exact writable_of_mem_exportAgents ha
  | nvmeof =>
      cases h
      rcases List.mem_append.1 ha with ha | ha
      · rcases List.mem_cons.1 ha with rfl | ha
        · exact writable_subsystemAgent _
        · obtain ⟨v, -, rfl⟩ := List.mem_map.1 ha
          exact writable_namespaceAgent _ _ _
      · obtain ⟨⟨ip, i⟩, -, rfl⟩ := List.mem_map.1 ha
        exact writable_portAgent _ _ _ _

/-- **Every agent of an endpoint can be written.** -/
theorem writable_of_mem_agents {e : Endpoint p} {placements : List Placement} {c : PromoterConfig}
    (h : e.toPromoter placements = .ok c) : ∀ a ∈ c.agents, a.Writable := by
  obtain ⟨service, hservice, rfl⟩ := toPromoter_eq_ok_iff.1 h
  intro a ha
  rw [agents_single] at ha
  rcases agentsAround_cases ha with
    ⟨device, directory, rfl⟩ | ⟨start, hstart, i, ip, ports, action, rfl⟩ | ⟨i, ip, rfl⟩ | ha
  · exact writable_mount (isWord_of_mem_nameParts _ (by simp [nameParts])) _ _ _
  · have hpart : ["portblock", "portunblock"] ⊆ nameParts := by simp [nameParts]
    exact writable_portBlock (isWord_numbered (hpart hstart) i) _ _ _
  · exact writable_claim _ _
  · exact writable_of_mem_serviceAgents hservice a ha

/-! ## What a configuration depends on -/

/-- What placements say about devices: on each node, which volume has which path. -/
def deviceLayout (placements : List Placement) : List (List (UInt32 × Option String)) :=
  placements.map fun p => p.volumes.map fun v => (v.number, v.devicePath)

/-- The path of a volume depends on the devices alone. -/
lemma devicePath_eq_deviceLayout (resource : String) (number : UInt32)
    (placements : List Placement) :
    devicePath resource number placements
      = (((deviceLayout placements).flatten.find? (·.1 = number)).bind (·.2)).getD
        ("/dev/drbd/by-res/" ++ resource ++ "/" ++ decimal number.toNat) := by
  have hflat : (deviceLayout placements).flatten
      = (placements.flatMap (·.volumes)).map fun v => (v.number, v.devicePath) := by
    rw [deviceLayout, List.flatMap_def, List.map_flatten, List.map_map]
    rfl
  rw [hflat, List.find?_map, Option.bind_map]
  rfl

/-- Lists that agree on a key agree on everything that depends on it. -/
lemma map_eq_map_of_key {α β γ : Type} {key : α → γ} {f g : α → β}
    (h : ∀ a b, key a = key b → f a = g b) :
    ∀ {l m : List α}, l.map key = m.map key → l.map f = m.map g
  | [], [], _ => rfl
  | [], _ :: _, hkeys => by simp at hkeys
  | _ :: _, [], hkeys => by simp at hkeys
  | a :: l, b :: m, hkeys => by
      obtain ⟨hab, hlm⟩ := List.cons.inj hkeys
      rw [List.map_cons, List.map_cons, h a b hab, map_eq_map_of_key h hlm]

/-- What a configuration uses of a volume. -/
def volumeKey (v : Volume) : UInt32 × Option String := (v.number, v.fileSystem)

lemma serviceAgents_congr {d e : Endpoint p} {placements others : List Placement}
    (hidentity : d.identity = e.identity) (hips : d.serviceIps = e.serviceIps)
    (hsettings : d.settings = e.settings)
    (hvolumes : d.volumes.map volumeKey = e.volumes.map volumeKey)
    (hlayout : deviceLayout placements = deviceLayout others) :
    serviceAgents d placements = serviceAgents e others := by
  have hdevice : ∀ resource number, devicePath resource number placements
      = devicePath resource number others := fun resource number => by
    rw [devicePath_eq_deviceLayout, devicePath_eq_deviceLayout, hlayout]
  have hkey : ∀ v w : Volume, volumeKey v = volumeKey w →
      v.number = w.number ∧ v.fileSystem = w.fileSystem := fun v w h =>
    ⟨congrArg Prod.fst h, congrArg Prod.snd h⟩
  cases p with
  | iscsi =>
      have hunits : d.volumes.map (unitAgent d.identity placements)
          = e.volumes.map (unitAgent e.identity others) := by
        refine map_eq_map_of_key (fun v w h => ?_) hvolumes
        simp only [unitAgent, hdevice, (hkey v w h).1, hidentity]
      rw [serviceAgents, serviceAgents, hunits, hidentity, hips, hsettings]
  | nfs =>
      have hmounts : d.volumes.map (mountAgent d.identity d.settings.exportPath placements)
          = e.volumes.map (mountAgent e.identity e.settings.exportPath others) := by
        refine map_eq_map_of_key (fun v w h => ?_) hvolumes
        simp only [mountAgent, (hkey v w h).1, (hkey v w h).2, hidentity, hsettings]
        exact congrArg (fun device => mount _ device _ _) (hdevice e.identity w.number)
      have hexports : d.volumes.map (exportAgents d.identity d.settings)
          = e.volumes.map (exportAgents e.identity e.settings) := by
        refine map_eq_map_of_key (fun v w h => ?_) hvolumes
        simp only [exportAgents, (hkey v w h).1, hidentity, hsettings]
      rw [serviceAgents, serviceAgents, List.flatMap_def, List.flatMap_def, hmounts, hexports,
        hips, hidentity]
  | nvmeof =>
      have hspaces : d.volumes.map (namespaceAgent d.identity placements)
          = e.volumes.map (namespaceAgent e.identity others) := by
        refine map_eq_map_of_key (fun v w h => ?_) hvolumes
        simp only [namespaceAgent, hdevice, (hkey v w h).1, hidentity]
      rw [serviceAgents, serviceAgents, hspaces, hidentity, hips, hsettings]

/-- **What a configuration depends on**: identity, addresses, settings, the numbers and file systems
of the volumes, and the devices. -/
theorem toPromoter_congr {d e : Endpoint p} {placements others : List Placement}
    (hidentity : d.identity = e.identity) (hips : d.serviceIps = e.serviceIps)
    (hsettings : d.settings = e.settings)
    (hvolumes : d.volumes.map volumeKey = e.volumes.map volumeKey)
    (hlayout : deviceLayout placements = deviceLayout others) :
    d.toPromoter placements = e.toPromoter others := by
  have hdevice : devicePath e.resourceName Volume.privateNumber placements
      = devicePath e.resourceName Volume.privateNumber others := by
    rw [devicePath_eq_deviceLayout, devicePath_eq_deviceLayout, hlayout]
  have hresource : d.resourceName = e.resourceName := by
    rw [resourceName, resourceName, hidentity]
  have hid : d.configId = e.configId := by
    rw [configId, configId, hidentity]
  rw [toPromoter, toPromoter, serviceAgents_congr hidentity hips hsettings hvolumes hlayout,
    hresource, hid, hips, hsettings, leadingAgents, leadingAgents, hdevice]

end FailoverStorage.Endpoint

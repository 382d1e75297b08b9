import FailoverStorage.Proofs.Endpoint.AgentNames
import FailoverStorage.Proofs.Endpoint.Numbers

/-!
# The order in which agents start

Where a resource is promoted its agents are started one after another, so that nobody reaches a
service before it is complete: the cluster-private volume is mounted, the ports are blocked, the
addresses are claimed, the service is started and exports its volumes, and only then the ports are
unblocked.

An agent belongs to the service if it is of one of the service's kinds or is about a data volume
(`Agent.OfService`).  No agent around the service does (`Endpoint.filter_ofService`), so whatever is
asked about such agents is asked about the service alone, and there each volume has one agent
(`Endpoint.filter_volumeKind`) and one export for each network (`Endpoint.filter_export`).

`Endpoint.StartsSafely` collects what makes an order safe, and `Endpoint.startsSafely_toPromoter`
finds it in the configuration of every endpoint that passes its check when completed.
-/

namespace FailoverStorage

open Text

/-! ## Kinds of agents -/

namespace Agent

/-- The kinds of agents that make up a service. -/
def serviceKinds : List String :=
  [iscsiTargetKind, logicalUnitKind, subsystemKind, namespaceKind, nvmePortKind, nfsServerKind,
    exportKind]

/-- **An agent belongs to a service**: it is of one of its kinds or is about a data volume. -/
def OfService (a : Agent) : Prop := a.kind ∈ serviceKinds ∨ a.volumeNumber?.isSome

instance : DecidablePred OfService := fun a =>
  inferInstanceAs (Decidable (a.kind ∈ serviceKinds ∨ a.volumeNumber?.isSome))

/-- Whether an agent does something to ports. -/
def setsPorts (action : String) (a : Agent) : Bool :=
  a.kind = portBlockKind && a.get? "action" = some action

/-- Whether an agent of a kind is about a volume. -/
def isAbout (kind : String) (number : UInt32) (a : Agent) : Bool :=
  a.kind = kind && a.volumeNumber? = some number

/-- **One agent is started before another.** -/
def Precedes (start : List Agent) (a b : Agent) : Prop := [a, b].Sublist start

variable {a b : Agent} {l m : List Agent}

lemma precedes_append (ha : a ∈ l) (hb : b ∈ m) : Precedes (l ++ m) a b :=
  (List.singleton_sublist.2 ha).append (List.singleton_sublist.2 hb)

lemma Precedes.of_sublist (h : Precedes l a b) (hlm : l.Sublist m) : Precedes m a b := h.trans hlm

lemma setsPorts_portBlock (action name : String) (ip : ServiceIp) (ports action' : String) :
    (portBlock name ip ports action').setsPorts action = decide (action' = action) := by
  simp [setsPorts, portBlock, ofList, get?, SortedMap.find?_ofList]

lemma setsPorts_eq_false {action : String} (h : a.kind ≠ portBlockKind) :
    a.setsPorts action = false := by
  rw [setsPorts, decide_eq_false h, Bool.false_and]

lemma isAbout_iff {kind : String} {number : UInt32} :
    a.isAbout kind number = true ↔ a.kind = kind ∧ a.volumeNumber? = some number := by
  rw [isAbout, Bool.and_eq_true_iff, decide_eq_true_iff, decide_eq_true_iff]

/-- What is about a data volume belongs to the service. -/
lemma ofService_of_isAbout {kind : String} {number : UInt32} (h : a.isAbout kind number = true) :
    a.OfService :=
  .inr (Option.isSome_iff_exists.2 ⟨number, (isAbout_iff.1 h).2⟩)

/-- An agent of another kind belongs to no service. -/
lemma not_ofService (kind : String) (hkind : a.kind = kind)
    (h : kind ∉ serviceKinds ++ volumeKinds) : ¬ a.OfService := by
  rw [List.mem_append, not_or] at h
  rintro (hmem | hnumber)
  · exact h.1 (hkind ▸ hmem)
  · rw [volumeNumber?_eq_none kind hkind h.2] at hnumber
    cases hnumber

end Agent

namespace Endpoint

open Agent

variable {p : Protocol}

/-! ## Agents of a service -/

/-- The networks to which volumes are exported; only an NFS export has some. -/
def networks : {p : Protocol} → p.Settings → List ServiceIp
  | .nfs, s => (s : NfsSettings).allowedIps
  | .iscsi, _ | .nvmeof, _ => []

variable {e : Endpoint p} {placements : List Placement} {service : List Agent}

lemma map_allowedIp_exportAgents (name : String) (s : NfsSettings) (v : Volume) :
    (exportAgents name s v).map (·.get? "allowed_ip")
      = s.allowedIps.map fun ip => some ip.text := by
  have hzip := List.zipIdx_map_fst 0 s.allowedIps
  rw [exportAgents, List.map_map, ← congrArg (List.map fun ip : ServiceIp => some ip.text) hzip,
    List.map_map]
  refine List.map_congr_left fun x _ => ?_
  simp [get?, ofList, SortedMap.find?_ofList]

/-- A volume is exported once to each network. -/
lemma map_allowedIp_exportsOf (e : Endpoint p) (v : Volume) :
    (exportsOf e v).map (·.get? "allowed_ip")
      = (networks e.settings).map fun ip => some ip.text := by
  cases p with
  | nfs => exact map_allowedIp_exportAgents e.identity e.settings v
  | _ => rfl

/-- What is exported of a volume is the directory in which it is mounted. -/
lemma directory_of_mem_exportsOf (placements : List Placement) {v : Volume} {a : Agent}
    (ha : a ∈ exportsOf e v) :
    ∃ directory, (volumeAgent e placements v).get? "directory" = some directory
      ∧ a.get? "directory" = some directory := by
  cases p with
  | nfs =>
      obtain ⟨x, -, rfl⟩ := List.mem_map.1 ha
      refine ⟨volumeDirectory (e.settings : NfsSettings).exportPath v.number, ?_, ?_⟩
      · simp [volumeAgent, mountAgent, mount, get?, ofList, SortedMap.find?_ofList]
      · simp [get?, ofList, SortedMap.find?_ofList]
  | _ => cases ha

lemma kinds_ne (p : Protocol) : volumeKind p ≠ exportKind
    ∧ (volumeKind p ≠ firstKind p ∧ volumeKind p ≠ nvmePortKind)
    ∧ exportKind ≠ firstKind p ∧ exportKind ≠ nvmePortKind := by
  cases p <;> decide

/-- Everything in a service belongs to it. -/
lemma ofService_of_mem_service (h : serviceAgents e placements = .ok service) {a : Agent}
    (ha : a ∈ service) : a.OfService := by
  have hfirst : firstKind p ∈ serviceKinds := by cases p <;> decide
  have hport : nvmePortKind ∈ serviceKinds := by decide
  rcases mem_service_cases h ha with hkind | ⟨v, -, rfl⟩ | ⟨v, -, hexport⟩ | hkind
  · exact .inl (hkind ▸ hfirst)
  · exact .inr (Option.isSome_iff_exists.2 ⟨_, volumeNumber?_volumeAgent e placements v⟩)
  · exact .inr (Option.isSome_iff_exists.2 ⟨_, volumeNumber?_of_mem_exportsOf hexport⟩)
  · exact .inl (hkind ▸ hport)

/-! ## The agents of one volume -/

/-- Agents of another kind are not about the volume. -/
lemma filter_isAbout_eq_nil {kind : String} {l : List Agent} (h : ∀ a ∈ l, a.kind ≠ kind)
    (number : UInt32) : l.filter (isAbout kind number) = [] :=
  List.filter_eq_nil_iff.2 fun a ha habout => h a ha (isAbout_iff.1 habout).1

/-- **Among agents that are made volume by volume, those about a volume are those made of it**, if
no two volumes share a number. -/
lemma filter_isAbout_flatMap {kind : String} {f : Volume → List Agent}
    (hf : ∀ v, ∀ a ∈ f v, a.kind = kind ∧ a.volumeNumber? = some v.number) {volumes : List Volume}
    (hnodup : (volumes.map (·.number)).Nodup) {v : Volume} (hv : v ∈ volumes) :
    (volumes.flatMap f).filter (isAbout kind v.number) = f v := by
  have hown : (f v).filter (isAbout kind v.number) = f v :=
    List.filter_eq_self.2 fun a ha => isAbout_iff.2 (hf v a ha)
  have hother : ∀ w, w.number ≠ v.number → (f w).filter (isAbout kind v.number) = [] := by
    refine fun w hne => List.filter_eq_nil_iff.2 fun a ha habout => hne ?_
    exact Option.some.inj ((hf w a ha).2.symm.trans (isAbout_iff.1 habout).2)
  induction volumes with
  | nil => cases hv
  | cons w rest ih =>
      obtain ⟨hfresh, hrest⟩ := List.nodup_cons.1 hnodup
      rw [List.flatMap_cons, List.filter_append]
      rcases List.mem_cons.1 hv with rfl | hv
      · have hnone : (rest.flatMap f).filter (isAbout kind v.number) = [] := by
          rw [List.filter_flatMap, List.flatMap_eq_nil_iff]
          exact fun w hw => hother w fun heq => hfresh (List.mem_map.2 ⟨w, hw, heq⟩)
        rw [hown, hnone, List.append_nil]
      · have hne : w.number ≠ v.number := fun heq => hfresh (List.mem_map.2 ⟨v, hv, heq.symm⟩)
        rw [hother w hne, List.nil_append, ih hrest hv]

/-- What a service has about a volume are agents of volumes or exports. -/
lemma filter_isAbout_service (h : serviceAgents e placements = .ok service) {kind : String}
    (hkind : kind ≠ firstKind p ∧ kind ≠ nvmePortKind) (number : UInt32) :
    service.filter (isAbout kind number)
      = (e.volumes.map (volumeAgent e placements)).filter (isAbout kind number)
        ++ (e.volumes.flatMap (exportsOf e)).filter (isAbout kind number) := by
  obtain ⟨first, hfirst, rfl⟩ := exists_service_eq h
  have hone : [first].filter (isAbout kind number) = [] := by
    refine filter_isAbout_eq_nil (fun a ha heq => hkind.1 ?_) number
    rw [← heq, List.mem_singleton.1 ha, hfirst]
  have hports : (portsOf e).filter (isAbout kind number) = [] :=
    filter_isAbout_eq_nil (fun a ha heq => hkind.2 (heq.symm.trans (kind_of_mem_portsOf ha))) number
  rw [List.cons_append, List.cons_append, ← List.singleton_append, List.filter_append,
    List.filter_append, List.filter_append, hone, hports, List.nil_append, List.append_nil]

section

variable (h : serviceAgents e placements = .ok service)
  (hnodup : (e.volumes.map (·.number)).Nodup) {v : Volume} (hv : v ∈ e.volumes)

include h hnodup hv

/-- **A service has one agent for each volume.** -/
lemma filter_volumeKind :
    service.filter (isAbout (volumeKind p) v.number) = [volumeAgent e placements v] := by
  obtain ⟨hexport, hkind, -⟩ := kinds_ne p
  have hexports : (e.volumes.flatMap (exportsOf e)).filter (isAbout (volumeKind p) v.number)
      = [] := by
    refine filter_isAbout_eq_nil (fun a ha heq => hexport ?_) _
    obtain ⟨w, -, ha⟩ := List.mem_flatMap.1 ha
    rw [← heq, kind_of_mem_exportsOf ha]
  rw [filter_isAbout_service h hkind, hexports, List.append_nil, List.map_eq_flatMap]
  refine filter_isAbout_flatMap (fun w a ha => ?_) hnodup hv
  rw [List.mem_singleton.1 ha]
  exact ⟨kind_volumeAgent e placements w, volumeNumber?_volumeAgent e placements w⟩

/-- **A service exports a volume by the agents that are made of it.** -/
lemma filter_export : service.filter (isAbout exportKind v.number) = exportsOf e v := by
  obtain ⟨hexport, -, hkind⟩ := kinds_ne p
  have hvolumes : (e.volumes.map (volumeAgent e placements)).filter (isAbout exportKind v.number)
      = [] := by
    refine filter_isAbout_eq_nil (fun a ha heq => hexport ?_) _
    obtain ⟨w, -, rfl⟩ := List.mem_map.1 ha
    rwa [kind_volumeAgent] at heq
  rw [filter_isAbout_service h hkind, hvolumes, List.nil_append]
  exact filter_isAbout_flatMap
    (fun w a ha => ⟨kind_of_mem_exportsOf ha, volumeNumber?_of_mem_exportsOf ha⟩) hnodup hv

end

/-! ## What stands around a service -/

/-- The agent that mounts the cluster-private volume. -/
def privateMount (e : Endpoint p) (placements : List Placement) : Agent :=
  mount "fs_cluster_private" (devicePath e.resourceName Volume.privateNumber placements)
    (privateRoot ++ "/" ++ e.resourceName) "ext4"

/-- The agent that blocks the ports of the service IP at a position. -/
def blocking (e : Endpoint p) (ip : ServiceIp) (i : Nat) : Agent :=
  portBlock ("portblock" ++ decimal i) ip (ports e.settings) "block"

/-- The agent that unblocks them. -/
def unblocking (e : Endpoint p) (ip : ServiceIp) (i : Nat) : Agent :=
  portBlock ("portunblock" ++ decimal i) ip (ports e.settings) "unblock"

/-- **The agents of an endpoint**: mount, block, claim, serve, unblock. -/
lemma agentsAround_eq (e : Endpoint p) (service : List Agent) (placements : List Placement) :
    agentsAround e service placements = e.privateMount placements
      :: (e.eachIp e.blocking ++ e.eachIp (fun ip i => claim i ip) ++ service
        ++ e.eachIp e.unblocking) := rfl

lemma mem_eachIp {e : Endpoint p} {ip : ServiceIp} {i : Nat} (h : e.serviceIps[i]? = some ip)
    (agent : ServiceIp → Nat → Agent) : agent ip i ∈ e.eachIp agent :=
  List.mem_map.2 ⟨(ip, i), List.mk_mem_zipIdx_iff_getElem?.2 h, rfl⟩

section

variable {P : Agent → Bool} {agent : ServiceIp → Nat → Agent}

lemma filter_eachIp_eq_self (h : ∀ ip i, P (agent ip i) = true) :
    (e.eachIp agent).filter P = e.eachIp agent := by
  refine List.filter_eq_self.2 fun a ha => ?_
  obtain ⟨x, -, rfl⟩ := List.mem_map.1 ha
  exact h x.1 x.2

lemma filter_eachIp_eq_nil (h : ∀ ip i, P (agent ip i) = false) :
    (e.eachIp agent).filter P = [] := by
  refine List.filter_eq_nil_iff.2 fun a ha => ?_
  obtain ⟨x, -, rfl⟩ := List.mem_map.1 ha
  exact Bool.eq_false_iff.1 (h x.1 x.2)

end

lemma not_ofService_privateMount (e : Endpoint p) (placements : List Placement) :
    ¬ (e.privateMount placements).OfService := by
  rintro (hkind | hnumber)
  · exact absurd hkind (show fileSystemKind ∉ serviceKinds by decide)
  · rw [privateMount, volumeNumber?_mount_private] at hnumber
    cases hnumber

/-- What a filter leaves of a configuration, part by part. -/
lemma filter_around (e : Endpoint p) (service : List Agent) (placements : List Placement)
    {P : Agent → Bool} (hmount : P (e.privateMount placements) = false) :
    (agentsAround e service placements).filter P = (e.eachIp e.blocking).filter P
      ++ (e.eachIp fun ip i => claim i ip).filter P ++ service.filter P
      ++ (e.eachIp e.unblocking).filter P := by
  rw [agentsAround_eq, List.filter_cons_of_neg (Bool.eq_false_iff.1 hmount), List.filter_append,
    List.filter_append, List.filter_append]

/-- **What is asked about agents of the service is asked about the service alone.** -/
lemma filter_ofService (e : Endpoint p) (service : List Agent) (placements : List Placement)
    {P : Agent → Bool} (hP : ∀ a, P a = true → a.OfService) :
    (agentsAround e service placements).filter P = service.filter P := by
  have hfalse : ∀ a : Agent, ¬ a.OfService → P a = false := fun a ha =>
    Bool.eq_false_iff.2 fun hPa => ha (hP a hPa)
  have hnone : ∀ (agent : ServiceIp → Nat → Agent) (kind : String),
      (∀ ip i, (agent ip i).kind = kind) → kind ∉ serviceKinds ++ volumeKinds →
      (e.eachIp agent).filter P = [] := fun agent kind hkind h =>
    filter_eachIp_eq_nil fun ip i => hfalse _ (not_ofService kind (hkind ip i) h)
  have hblocked := hnone e.blocking portBlockKind (fun _ _ => rfl) (by decide)
  have hclaimed := hnone (fun ip i => claim i ip) addressKind (fun _ _ => rfl) (by decide)
  have hunblocked := hnone e.unblocking portBlockKind (fun _ _ => rfl) (by decide)
  rw [filter_around e service placements (hfalse _ (not_ofService_privateMount e placements)),
    hblocked, hclaimed, hunblocked, List.nil_append, List.nil_append, List.append_nil]

lemma mem_service_of_ofService {a : Agent} (ha : a ∈ agentsAround e service placements)
    (hservice : a.OfService) : a ∈ service := by
  have hmem : a ∈ (agentsAround e service placements).filter fun b => decide b.OfService :=
    List.mem_filter.2 ⟨ha, decide_eq_true hservice⟩
  rw [filter_ofService e service placements fun _ => of_decide_eq_true] at hmem
  exact (List.mem_filter.1 hmem).1

section

variable (h : serviceAgents e placements = .ok service)

include h

/-- A service neither sets ports nor claims addresses. -/
lemma kind_ne_of_mem_service {a : Agent} (ha : a ∈ service) :
    a.kind ≠ portBlockKind ∧ a.kind ≠ addressKind :=
  have hservice := ofService_of_mem_service h ha
  ⟨fun hkind => not_ofService _ hkind (by decide) hservice,
    fun hkind => not_ofService _ hkind (by decide) hservice⟩

/-- What sets ports stands around the service. -/
lemma filter_setsPorts (action : String) :
    (agentsAround e service placements).filter (setsPorts action)
      = (e.eachIp e.blocking).filter (setsPorts action)
        ++ (e.eachIp e.unblocking).filter (setsPorts action) := by
  have hmount : (e.privateMount placements).setsPorts action = false :=
    setsPorts_eq_false (show fileSystemKind ≠ portBlockKind by decide)
  have hclaim : ∀ (ip : ServiceIp) i, (claim i ip).setsPorts action = false := fun ip i =>
    setsPorts_eq_false (show addressKind ≠ portBlockKind by decide)
  have hservice : service.filter (setsPorts action) = [] :=
    List.filter_eq_nil_iff.2 fun _ ha =>
      Bool.eq_false_iff.1 (setsPorts_eq_false (kind_ne_of_mem_service h ha).1)
  rw [filter_around e service placements hmount, filter_eachIp_eq_nil hclaim, hservice,
    List.append_nil, List.append_nil]

/-- **Ports are blocked once at each service IP**, in order. -/
lemma filter_block : (agentsAround e service placements).filter (setsPorts "block")
    = e.eachIp e.blocking := by
  rw [filter_setsPorts h, filter_eachIp_eq_self fun ip _ => setsPorts_portBlock "block" _ ip _ _,
    filter_eachIp_eq_nil fun ip _ => setsPorts_portBlock "block" _ ip _ _, List.append_nil]

/-- **Ports are unblocked once at each service IP**, in order. -/
lemma filter_unblock : (agentsAround e service placements).filter (setsPorts "unblock")
    = e.eachIp e.unblocking := by
  rw [filter_setsPorts h, filter_eachIp_eq_nil fun ip _ => setsPorts_portBlock "unblock" _ ip _ _,
    filter_eachIp_eq_self fun ip _ => setsPorts_portBlock "unblock" _ ip _ _, List.nil_append]

/-- **Each service IP is claimed once**, in order. -/
lemma filter_address : (agentsAround e service placements).filter (·.kind = addressKind)
    = e.eachIp fun ip i => claim i ip := by
  have hmount : decide (fileSystemKind = addressKind) = false := by decide
  have hblock : decide (portBlockKind = addressKind) = false := by decide
  have hservice : service.filter (·.kind = addressKind) = [] :=
    List.filter_eq_nil_iff.2 fun a ha => by simpa using (kind_ne_of_mem_service h ha).2
  rw [filter_around e service placements hmount, hservice,
    filter_eachIp_eq_nil fun _ _ => hblock, filter_eachIp_eq_self fun _ _ => decide_eq_true rfl,
    filter_eachIp_eq_nil fun _ _ => hblock, List.nil_append, List.append_nil, List.append_nil]

end

/-! ## Which agent is started before which -/

section

variable {ip : ServiceIp} {i : Nat}

/-- The ports of a service IP are blocked before it is claimed. -/
lemma precedes_claim (hip : e.serviceIps[i]? = some ip) :
    Precedes (agentsAround e service placements) (e.blocking ip i) (claim i ip) := by
  have hsublist : (e.eachIp e.blocking ++ e.eachIp fun ip i => claim i ip).Sublist
      (agentsAround e service placements) :=
    ((List.sublist_append_left _ service).trans (List.sublist_append_left _ _)).cons _
  exact (precedes_append (mem_eachIp hip _) (mem_eachIp hip fun ip i => claim i ip)).of_sublist
    hsublist

/-- It is claimed before the service starts. -/
lemma claim_precedes (hip : e.serviceIps[i]? = some ip) {a : Agent} (ha : a ∈ service) :
    Precedes (agentsAround e service placements) (claim i ip) a := by
  have hclaim : claim i ip ∈ e.eachIp e.blocking ++ e.eachIp fun ip i => claim i ip :=
    List.mem_append_right _ (mem_eachIp hip fun ip i => claim i ip)
  exact (precedes_append hclaim ha).of_sublist ((List.sublist_append_left _ _).cons _)

/-- Everything else is started before its ports are unblocked. -/
lemma precedes_unblocking (hip : e.serviceIps[i]? = some ip) {a : Agent}
    (ha : a ∈ agentsAround e service placements) (hsets : a.setsPorts "unblock" = false) :
    Precedes (agentsAround e service placements) a (e.unblocking ip i) := by
  have hmem : a ∈ e.privateMount placements
      :: (e.eachIp e.blocking ++ e.eachIp (fun ip i => claim i ip) ++ service) := by
    rw [agentsAround_eq, ← List.cons_append] at ha
    refine (List.mem_append.1 ha).resolve_right fun hlast => ?_
    obtain ⟨x, -, rfl⟩ := List.mem_map.1 hlast
    rw [unblocking, setsPorts_portBlock] at hsets
    cases hsets
  exact precedes_append hmem (mem_eachIp hip e.unblocking)

end

/-- **A directory is mounted before it is exported.** -/
lemma volumeAgent_precedes_export (h : serviceAgents e placements = .ok service) {a : Agent}
    (ha : a ∈ service) (hkind : a.kind = exportKind) :
    ∃ v ∈ e.volumes, a.isAbout exportKind v.number = true
      ∧ Precedes service (volumeAgent e placements v) a
      ∧ ∃ directory, (volumeAgent e placements v).get? "directory" = some directory
        ∧ a.get? "directory" = some directory := by
  obtain ⟨hexport, -, hfirst, hport⟩ := kinds_ne p
  have hexported : ∃ v ∈ e.volumes, a ∈ exportsOf e v := by
    rcases mem_service_cases h ha with hkind' | ⟨v, -, rfl⟩ | hexported | hkind'
    · exact absurd (hkind.symm.trans hkind') hfirst
    · exact absurd ((kind_volumeAgent e placements v).symm.trans hkind) hexport
    · exact hexported
    · exact absurd (hkind.symm.trans hkind') hport
  obtain ⟨v, hv, hav⟩ := hexported
  have habout : a.isAbout exportKind v.number = true :=
    isAbout_iff.2 ⟨hkind, volumeNumber?_of_mem_exportsOf hav⟩
  refine ⟨v, hv, habout, ?_, directory_of_mem_exportsOf placements hav⟩
  obtain ⟨first, -, rfl⟩ := exists_service_eq h
  have hvolume : volumeAgent e placements v ∈ first :: e.volumes.map (volumeAgent e placements) :=
    List.mem_cons_of_mem _ (List.mem_map.2 ⟨v, hv, rfl⟩)
  exact (precedes_append hvolume (List.mem_flatMap.2 ⟨v, hv, hav⟩)).of_sublist
    (List.sublist_append_left _ _)

/-! ## Safe orders -/

/-- **An order in which agents can be started safely.** -/
structure StartsSafely (e : Endpoint p) (placements : List Placement) (start : List Agent) :
    Prop where
  /-- No two agents share a name. -/
  names : (start.map (·.name)).Nodup
  /-- The cluster-private volume is mounted first. -/
  first : start.head? = some (e.privateMount placements)
  /-- For each service IP, in order, ports are blocked once, ... -/
  blocked : start.filter (setsPorts "block") = e.eachIp e.blocking
  /-- ... the address is claimed once ... -/
  claimed : start.filter (·.kind = addressKind) = e.eachIp fun ip i => claim i ip
  /-- ... and ports are unblocked once. -/
  unblocked : start.filter (setsPorts "unblock") = e.eachIp e.unblocking
  /-- Ports are blocked before the address is claimed. -/
  blockedFirst : ∀ i ip, e.serviceIps[i]? = some ip →
    Precedes start (e.blocking ip i) (claim i ip)
  /-- The address is claimed before any agent of the service. -/
  claimedFirst : ∀ i ip, e.serviceIps[i]? = some ip → ∀ a ∈ start, a.OfService →
    Precedes start (claim i ip) a
  /-- Ports are unblocked after everything else. -/
  unblockedLast : ∀ i ip, e.serviceIps[i]? = some ip → ∀ a ∈ start,
    a.setsPorts "unblock" = false → Precedes start a (e.unblocking ip i)
  /-- Each volume has one agent. -/
  volumes : ∀ v ∈ e.volumes,
    start.filter (isAbout (volumeKind p) v.number) = [volumeAgent e placements v]
  /-- Each volume is exported once to each network. -/
  exported : ∀ v ∈ e.volumes, (start.filter (isAbout exportKind v.number)).map
    (·.get? "allowed_ip") = (networks e.settings).map fun ip => some ip.text
  /-- Every export is of a volume, whose file system is mounted in its directory before. -/
  mounted : ∀ a ∈ start, a.kind = exportKind →
    ∃ v ∈ e.volumes, a.isAbout exportKind v.number = true
      ∧ Precedes start (volumeAgent e placements v) a
      ∧ ∃ directory, (volumeAgent e placements v).get? "directory" = some directory
        ∧ a.get? "directory" = some directory

/-- The agents of an endpoint are in a safe order if its volumes have numbers of their own. -/
lemma startsSafely_agentsAround (h : serviceAgents e placements = .ok service)
    (hnodup : (e.volumes.map (·.number)).Nodup) :
    StartsSafely e placements (agentsAround e service placements) where
  names := nodup_names h hnodup
  first := rfl
  blocked := filter_block h
  claimed := filter_address h
  unblocked := filter_unblock h
  blockedFirst _ _ hip := precedes_claim hip
  claimedFirst _ _ hip _ ha hservice := claim_precedes hip (mem_service_of_ofService ha hservice)
  unblockedLast _ _ hip _ ha hsets := precedes_unblocking hip ha hsets
  volumes v hv := by
    rw [filter_ofService e service placements fun _ habout => ofService_of_isAbout habout]
    exact filter_volumeKind h hnodup hv
  exported v hv := by
    rw [filter_ofService e service placements fun _ habout => ofService_of_isAbout habout,
      filter_export h hnodup hv, map_allowedIp_exportsOf]
  mounted a ha hkind := by
    have hservice : a.OfService := .inl (hkind ▸ by decide)
    obtain ⟨v, hv, habout, hprecedes, hdirectory⟩ :=
      volumeAgent_precedes_export h (mem_service_of_ofService ha hservice) hkind
    have hsublist : service.Sublist (agentsAround e service placements) :=
      (List.sublist_append_right _ _).trans (List.sublist_append_left _ _)
    exact ⟨v, hv, habout, hprecedes.of_sublist hsublist, hdirectory⟩

/-- **The agents of an endpoint that passes its check when completed start in a safe order**, be the
endpoint itself completed or not. -/
theorem startsSafely_toPromoter {d : Endpoint p} (h : d.fillDefaults.validate = .ok ())
    (placements : List Placement) : ∀ e ∈ [d, d.fillDefaults], ∃ c resource,
      e.toPromoter placements = .ok c ∧ c.resource = .ok (e.resourceName, resource)
        ∧ StartsSafely e placements resource.start := by
  have hsettled := settled_fillDefaults h
  have hcompleted := hsettled.exists_toPromoter placements
  -- all that a configuration needs are service IPs, and completing adds none
  have hips := exists_toPromoter_iff.1 hcompleted
  have hnodup : (d.fillDefaults.volumes.map (·.number)).Nodup := hsettled.ascending.nodup
  have hall : ∀ e ∈ [d, d.fillDefaults], (∃ c, e.toPromoter placements = .ok c)
      ∧ (e.volumes.map (·.number)).Nodup := by
    simp only [List.forall_mem_cons]
    exact ⟨⟨exists_toPromoter_iff.2 hips, (numbers_fillDefaults_perm d).nodup_iff.1 hnodup⟩,
      ⟨hcompleted, hnodup⟩, fun _ he => nomatch he⟩
  intro e he
  obtain ⟨⟨c, hc⟩, hnumbers⟩ := hall e he
  obtain ⟨service, hservice, rfl⟩ := toPromoter_eq_ok_iff.1 hc
  exact ⟨_, _, hc, resource_single _ _ _, startsSafely_agentsAround hservice hnumbers⟩

/-! ## One export -/

/-- An export of two volumes to two networks. -/
def sharedExport : Endpoint .nfs :=
  { identity := "shared"
    serviceIps := [⟨.v4 10 0 0 3, 24, by decide⟩]
    settings := ({ allowedIps := [⟨.v4 10 0 1 0, 24, by decide⟩, ⟨.v4 10 0 2 0, 24, by decide⟩] } :
      NfsSettings)
    volumes := [{ number := 2, sizeKib := 4096 }, { number := 1, sizeKib := 1024 }] }

/-- When completed it mounts and exports its volumes in order. -/
theorem startsSafely_sharedExport :
    sharedExport.fillDefaults.validate = .ok ()
      ∧ (sharedExport.fillDefaults.toPromoter []).map (fun c => c.agents.map (·.name))
        = .ok ["fs_cluster_private", "portblock0", "service_ip0", "nfsserver", "fs_1", "fs_2",
          "export_1_0", "export_1_1", "export_2_0", "export_2_1", "portunblock0"]
      ∧ ∃ c resource, sharedExport.fillDefaults.toPromoter [] = .ok c
        ∧ c.resource = .ok ("shared", resource)
        ∧ StartsSafely sharedExport.fillDefaults [] resource.start := by
  have hvalid : sharedExport.fillDefaults.validate = .ok () := by decide
  have hmem : sharedExport.fillDefaults ∈ [sharedExport, sharedExport.fillDefaults] :=
    List.mem_cons_of_mem _ List.mem_cons_self
  exact ⟨hvalid, by decide +kernel, startsSafely_toPromoter hvalid [] _ hmem⟩

end Endpoint

end FailoverStorage

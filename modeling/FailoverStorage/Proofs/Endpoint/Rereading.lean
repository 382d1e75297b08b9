import FailoverStorage.Proofs.Endpoint.Identity
import FailoverStorage.Proofs.Endpoint.Legibility

/-!
# Reading twice

A configuration need not stem from a request: somebody may have written it by hand.  Then what is
read from it has passed no check, and still it is written again when a volume is removed.

**What reading ensures.**  Volumes are read in order (`ordered_of_ofPromoter`), initiators are
words, and an export has networks.  The sizes of volumes are looked up last, so reading succeeds or
fails whatever the volume definitions are (`ofPromoter_resized`).

**What it does not ensure** is a service IP.  An export without one cannot be written at all
(`exists_toPromoter_iff`), and a subsystem without one has no port, so that its configuration is
written but cannot be read (`subsystemOf_toPromoter_ne_ok`).  There are no other obstacles
(`exists_ofPromoter_withoutVolume`).
-/

namespace FailoverStorage.Endpoint

open Text Agent

variable {p : Protocol} {c d : PromoterConfig} {definition : Option ResourceDefinition}
  {volumeDefinitions : List VolumeDefinition} {placements : List Placement}

/-! ## Volumes -/

/-- **The sizes of volumes are looked up last**, after everything else about them has been read. -/
lemma volumesOf_eq_map_resized (numbers : List (UInt32 × Option String))
    (volumeDefinitions others : List VolumeDefinition) :
    volumesOf numbers others = (volumesOf numbers volumeDefinitions).map (resized others) := by
  have hsorted : ∀ definitions, volumesOf numbers definitions
      = (sortOn Prod.fst (numbers.filter (·.1 ≠ Volume.privateNumber))).map
        fun k => { number := k.1, sizeKib := sizeOf definitions k.1, fileSystem := k.2 } :=
    fun definitions => sortOn_map Volume.number _ _
  rw [hsorted others, hsorted volumeDefinitions, List.map_map]
  rfl

/-- Volumes are read in order. -/
lemma pairwise_volumesOf (numbers : List (UInt32 × Option String))
    (volumeDefinitions : List VolumeDefinition) :
    (volumesOf numbers volumeDefinitions).Pairwise fun v w => v.number ≤ w.number :=
  pairwise_sortOn Volume.number _

/-- The cluster-private volume is not read as a volume. -/
lemma number_ne_of_mem_volumesOf {numbers : List (UInt32 × Option String)} {v : Volume}
    (hv : v ∈ volumesOf numbers volumeDefinitions) : v.number ≠ Volume.privateNumber := by
  obtain ⟨⟨number, fileSystem⟩, hnumber, rfl⟩ := List.mem_map.1 ((mem_sortOn _).1 hv)
  simpa using (List.mem_filter.1 hnumber).2

lemma Ordered.withoutVolume {e : Endpoint p} (h : e.Ordered) (number : UInt32) :
    (e.withoutVolume number).Ordered :=
  ⟨h.order.filter _, fun v hv => h.numbers v (mem_withoutVolume.1 hv).1⟩

/-! ## Initiators and networks -/

lemma of_asPromoterError_eq_ok {α : Type} {place : String} {result : Except Error α} {a : α}
    (h : asPromoterError place result = .ok a) : result = .ok a := by
  rcases result with err | b
  · cases h
  · exact h

/-- Initiators that were read contain no blanks. -/
lemma isBlankFree_of_readInitiators {text : String} {l : List Iqn}
    (h : readInitiators text = .ok l) : ∀ iqn ∈ l, IsBlankFree iqn.text := by
  intro iqn hiqn
  obtain ⟨w, hw, hparse⟩ := exists_of_mem_mapM h hiqn
  have hnone : ∀ c ∈ ([] : List Char), isBlank c = false := fun _ hc => absurd hc List.not_mem_nil
  rw [IsBlankFree, Iqn.text_of_parse hparse, String.toList_ofList]
  exact isBlank_of_mem_wordsFrom hnone hw

/-- The path that is read does not depend on the sizes of volumes. -/
lemma exportPathOf_resized (name : String) (record : Option String) (exports : List Agent)
    (volumes : List Volume) (others : List VolumeDefinition) :
    exportPathOf name record exports (volumes.map (resized others))
      = exportPathOf name record exports volumes := by
  cases record <;> cases exports <;> cases volumes <;> rfl

/-- The networks that are read do not depend on the sizes of volumes. -/
lemma allowedIpsOf_resized (record : Option String) (exports : List Agent) (volumes : List Volume)
    (others : List VolumeDefinition) :
    allowedIpsOf record exports (volumes.map (resized others))
      = allowedIpsOf record exports volumes := by
  cases record <;> cases volumes <;> rfl

/-- What a definition records of networks is read without a look at agents and volumes. -/
lemma allowedIpsOf_some (text : String) (exports others : List Agent) (volumes ws : List Volume) :
    allowedIpsOf (some text) exports volumes = allowedIpsOf (some text) others ws := rfl

lemma ne_nil_of_allowedIpsOf_eq_ok {record : Option String} {exports : List Agent}
    {volumes : List Volume} {ips : List ServiceIp}
    (h : allowedIpsOf record exports volumes = .ok ips) : ips ≠ [] := by
  have hanyone : ∀ read : List ServiceIp,
      (if read.isEmpty then [ServiceIp.anyV4] else read) ≠ [] := by
    intro read
    cases read <;> exact List.cons_ne_nil _ _
  unfold allowedIpsOf at h
  split at h
  all_goals
    obtain ⟨read, -, h⟩ := bind_eq_ok_iff.1 h
    cases h
    exact hanyone read

/-- The networks of exported volumes can be read from the agents, whichever volume comes first. -/
lemma exists_allowedIpsOf_exports (name : String) (s : NfsSettings)
    (exported volumes : List Volume) :
    ∃ ips, allowedIpsOf none (exported.flatMap (exportAgents name s)) volumes = .ok ips := by
  cases volumes with
  | nil => exact ⟨_, rfl⟩
  | cons v rest =>
      obtain ⟨read, hread⟩ := exists_mapM_eq_ok
        (f := fun a : Agent => do
          let ip ← a.require "allowed_ip"
          asPromoterError ("agent '" ++ a.name ++ "': ") (ServiceIp.parse ip))
        (l := (exported.flatMap (exportAgents name s)).filter fun a =>
          (dropStart ("export_" ++ decimal v.number.toNat ++ "_").toList a.name.toList).isSome)
        fun a ha => by
          obtain ⟨w, -, hw⟩ := List.mem_flatMap.1 (List.mem_filter.1 ha).1
          rw [exportAgents_eq] at hw
          obtain ⟨x, -, rfl⟩ := List.mem_map.1 hw
          refine ⟨x.1, ?_⟩
          rw [(require_exportAgent name s w x.1 x.2).2, ok_bind, ServiceIp.parse_text]
          rfl
      exact ⟨_, by simp only [allowedIpsOf, hread]; rfl⟩

/-! ## What reading ensures -/

/-- Units and namespaces tell no file system. -/
lemma fileSystem_of_numbersOf {agents : List Agent} {kind key : String}
    {numbers : List (UInt32 × Option String)} (h : numbersOf agents kind key = .ok numbers) :
    ∀ k ∈ numbers, k.2 = none := by
  intro k hk
  obtain ⟨a, -, ha⟩ := exists_of_mem_mapM h hk
  obtain ⟨number, -, ha⟩ := bind_eq_ok_iff.1 ha
  cases ha
  rfl

/-- What is mounted has a file system. -/
lemma fileSystem_of_mountedVolumes {agents : List Agent} {numbers : List (UInt32 × Option String)}
    (h : mountedVolumes agents = .ok numbers) : ∀ k ∈ numbers, k.2.isSome = true := by
  induction agents generalizing numbers with
  | nil =>
      cases h
      exact fun _ hk => nomatch hk
  | cons a rest ih =>
      rw [mountedVolumes] at h
      split at h
      · exact ih h
      · obtain ⟨fileSystem, -, h⟩ := bind_eq_ok_iff.1 h
        obtain ⟨others, hothers, h⟩ := bind_eq_ok_iff.1 h
        cases h
        exact List.forall_mem_cons.2 ⟨rfl, ih hothers⟩

/-- **What the storage tells of an endpoint that was read**: sizes, the group and the kind of sizes.
The configuration tells numbers and file systems, as far as volumes of the protocol have some. -/
structure Told (e : Endpoint p) (definition : Option ResourceDefinition)
    (volumeDefinitions : List VolumeDefinition) : Prop where
  volumes : ∃ numbers, (∀ k ∈ numbers, ∀ size, fillVolume p ⟨k.1, size, k.2⟩ = ⟨k.1, size, k.2⟩)
    ∧ e.volumes = volumesOf numbers volumeDefinitions
  resourceGroup : e.resourceGroup = groupOf definition
  grossSize : e.grossSize = grossSizeOf volumeDefinitions

/-- What is read under other sizes of the volumes. -/
def resizedTo (e : Endpoint p) (others : List VolumeDefinition) : Endpoint p :=
  { e with volumes := e.volumes.map (resized others), grossSize := grossSizeOf others }

/-- What a target is read from. -/
lemma exists_of_targetOf_eq_ok {e : Endpoint .iscsi}
    (h : targetOf c definition volumeDefinitions = .ok e) :
    e.Told definition volumeDefinitions
      ∧ (∀ iqn ∈ initiators e.settings, IsBlankFree iqn.text)
      ∧ ∀ others, targetOf c definition others = .ok (e.resizedTo others) := by
  rw [targetOf] at h
  obtain ⟨⟨resource, r⟩, hresource, h⟩ := bind_eq_ok_iff.1 h
  obtain ⟨target, htarget, h⟩ := bind_eq_ok_iff.1 h
  obtain ⟨text, htext, h⟩ := bind_eq_ok_iff.1 h
  obtain ⟨iqn, hiqn, h⟩ := bind_eq_ok_iff.1 h
  simp only at h
  split at h
  · cases h
  rename_i hname
  obtain ⟨_, hid, h⟩ := bind_eq_ok_iff.1 h
  obtain ⟨allowed, hallowed, h⟩ := bind_eq_ok_iff.1 h
  obtain ⟨numbers, hnumbers, h⟩ := bind_eq_ok_iff.1 h
  obtain ⟨ips, hips, h⟩ := bind_eq_ok_iff.1 h
  cases h
  have hread : readInitiators ((target.get? "allowed_initiators").getD "") = .ok allowed :=
    of_asPromoterError_eq_ok hallowed
  have htold : ∀ k ∈ numbers, ∀ size, fillVolume .iscsi ⟨k.1, size, k.2⟩ = ⟨k.1, size, k.2⟩ :=
    fun k hk _ => by rw [fileSystem_of_numbersOf hnumbers k hk]; rfl
  refine ⟨⟨⟨numbers, htold, rfl⟩, rfl, rfl⟩, isBlankFree_of_readInitiators hread,
    fun others => ?_⟩
  rw [targetOf_eq hresource htarget htext (of_asPromoterError_eq_ok hiqn)
    (Decidable.not_not.1 hname) (checkConfigId_eq_ok hid) hnumbers hips, hread,
    volumesOf_eq_map_resized numbers volumeDefinitions others]
  rfl

/-- What an export is read from. -/
lemma exists_of_exportOf_eq_ok {e : Endpoint .nfs}
    (h : exportOf c definition volumeDefinitions = .ok e) :
    e.Told definition volumeDefinitions
      ∧ (∃ exports, exportPathOf e.identity (recorded definition exportPathProperty) exports
            e.volumes = .ok (e.settings : NfsSettings).exportPath
          ∧ allowedIpsOf (recorded definition allowedIpsProperty) exports e.volumes
            = .ok (e.settings : NfsSettings).allowedIps)
      ∧ ∀ others, exportOf c definition others = .ok (e.resizedTo others) := by
  rw [exportOf] at h
  obtain ⟨⟨name, r⟩, hresource, h⟩ := bind_eq_ok_iff.1 h
  obtain ⟨_, hid, h⟩ := bind_eq_ok_iff.1 h
  obtain ⟨server, hserver, h⟩ := bind_eq_ok_iff.1 h
  obtain ⟨ips, hips, h⟩ := bind_eq_ok_iff.1 h
  obtain ⟨numbers, hnumbers, h⟩ := bind_eq_ok_iff.1 h
  obtain ⟨path, hpath, h⟩ := bind_eq_ok_iff.1 h
  obtain ⟨networks, hnetworks, h⟩ := bind_eq_ok_iff.1 h
  cases h
  have htold : ∀ k ∈ numbers, ∀ size, fillVolume .nfs ⟨k.1, size, k.2⟩ = ⟨k.1, size, k.2⟩ := by
    intro k hk size
    obtain ⟨fileSystem, hsome⟩ :=
      Option.isSome_iff_exists.1 (fileSystem_of_mountedVolumes hnumbers k hk)
    rw [hsome]
    rfl
  refine ⟨⟨⟨numbers, htold, rfl⟩, rfl, rfl⟩, ⟨_, hpath, hnetworks⟩, fun others => ?_⟩
  have hvolumes := volumesOf_eq_map_resized numbers volumeDefinitions others
  rw [exportOf_eq hresource (checkConfigId_eq_ok hid) hserver hips hnumbers
    (hvolumes ▸ (exportPathOf_resized _ _ _ _ _).trans hpath)
    (hvolumes ▸ (allowedIpsOf_resized _ _ _ _).trans hnetworks), hvolumes]
  rfl

/-- The agents of the one resource are agents of the configuration. -/
lemma mem_agents_of_resource {resource : String} {r : PromotedResource} {a : Agent}
    (h : c.resource = .ok (resource, r)) (ha : a ∈ r.start) : a ∈ c.agents := by
  rw [PromoterConfig.resource] at h
  split at h
  · rename_i entry hentries
    cases h
    rw [PromoterConfig.agents, SortedMap.values, hentries]
    exact List.mem_flatMap.2 ⟨r, List.mem_singleton_self r, ha⟩
  · cases h
  · cases h

lemma kind_of_findAgent {agents : List Agent} {kind what : String} {a : Agent}
    (h : findAgent c agents kind what = .ok a) : a ∈ agents ∧ a.kind = kind := by
  rw [findAgent] at h
  split at h
  · rename_i found hfound
    cases h
    exact ⟨List.mem_of_find?_eq_some hfound, by simpa using List.find?_some hfound⟩
  · cases h

/-- What a subsystem is read from. -/
lemma exists_of_subsystemOf_eq_ok {e : Endpoint .nvmeof}
    (h : subsystemOf c definition volumeDefinitions = .ok e) :
    e.Told definition volumeDefinitions
      ∧ (∃ a ∈ c.agents, a.kind = nvmePortKind)
      ∧ ∀ others, subsystemOf c definition others = .ok (e.resizedTo others) := by
  rw [subsystemOf] at h
  obtain ⟨⟨resource, r⟩, hresource, h⟩ := bind_eq_ok_iff.1 h
  obtain ⟨subsystem, hsubsystem, h⟩ := bind_eq_ok_iff.1 h
  obtain ⟨text, htext, h⟩ := bind_eq_ok_iff.1 h
  obtain ⟨nqn, hnqn, h⟩ := bind_eq_ok_iff.1 h
  simp only at h
  split at h
  · cases h
  rename_i hname
  obtain ⟨_, hid, h⟩ := bind_eq_ok_iff.1 h
  obtain ⟨portAgent, hport, h⟩ := bind_eq_ok_iff.1 h
  obtain ⟨port, hnumber, h⟩ := bind_eq_ok_iff.1 h
  obtain ⟨numbers, hnumbers, h⟩ := bind_eq_ok_iff.1 h
  obtain ⟨ips, hips, h⟩ := bind_eq_ok_iff.1 h
  cases h
  obtain ⟨hmem, hkind⟩ := kind_of_findAgent hport
  have htold : ∀ k ∈ numbers, ∀ size, fillVolume .nvmeof ⟨k.1, size, k.2⟩ = ⟨k.1, size, k.2⟩ :=
    fun k hk _ => by rw [fileSystem_of_numbersOf hnumbers k hk]; rfl
  refine ⟨⟨⟨numbers, htold, rfl⟩, rfl, rfl⟩,
    ⟨portAgent, mem_agents_of_resource hresource hmem, hkind⟩, fun others => ?_⟩
  rw [subsystemOf_eq hresource hsubsystem htext (of_asPromoterError_eq_ok hnqn)
    (Decidable.not_not.1 hname) (checkConfigId_eq_ok hid) hport hnumber hnumbers hips,
    volumesOf_eq_map_resized numbers volumeDefinitions others]
  rfl

/-- **Reading succeeds under all volume definitions or under none**, and they tell sizes only. -/
theorem ofPromoter_resized {e : Endpoint p}
    (h : ofPromoter p c definition volumeDefinitions = .ok e) (others : List VolumeDefinition) :
    ofPromoter p c definition others = .ok (e.resizedTo others) := by
  cases p with
  | iscsi => exact (exists_of_targetOf_eq_ok h).2.2 others
  | nfs => exact (exists_of_exportOf_eq_ok h).2.2 others
  | nvmeof => exact (exists_of_subsystemOf_eq_ok h).2.2 others

/-- What was read was told by the storage as far as the configuration does not tell it. -/
lemma told_of_ofPromoter {e : Endpoint p}
    (h : ofPromoter p c definition volumeDefinitions = .ok e) :
    e.Told definition volumeDefinitions := by
  cases p with
  | iscsi => exact (exists_of_targetOf_eq_ok h).1
  | nfs => exact (exists_of_exportOf_eq_ok h).1
  | nvmeof => exact (exists_of_subsystemOf_eq_ok h).1

/-- **What was read stands in order.** -/
lemma ordered_of_ofPromoter {e : Endpoint p}
    (h : ofPromoter p c definition volumeDefinitions = .ok e) : e.Ordered := by
  obtain ⟨numbers, -, hvolumes⟩ := (told_of_ofPromoter h).volumes
  refine ⟨hvolumes ▸ pairwise_volumesOf numbers volumeDefinitions, fun v hv => ?_⟩
  rw [hvolumes] at hv
  exact number_ne_of_mem_volumesOf hv

/-! ## What was read, written and read again -/

/-- An export that was read is read again. -/
lemma exists_exportOf_withoutVolume {e : Endpoint .nfs}
    (h : exportOf c definition volumeDefinitions = .ok e) (number : UInt32)
    (hd : (e.withoutVolume number).toPromoter placements = .ok d)
    (others : List VolumeDefinition) : ∃ b, exportOf d definition others = .ok b := by
  obtain ⟨-, ⟨exports, -, hnetworks⟩, -⟩ := exists_of_exportOf_eq_ok h
  have hordered := (ordered_of_ofPromoter (p := .nfs) h).withoutVolume number
  have hne : (e.settings : NfsSettings).allowedIps ≠ [] := ne_nil_of_allowedIpsOf_eq_ok hnetworks
  set b := e.withoutVolume number
  obtain ⟨path, hpath⟩ : ∃ path, exportPathOf b.identity (recorded definition exportPathProperty)
      (b.volumes.flatMap (exportAgents b.identity b.settings)) (volumesOf b.volumeKeys others)
        = .ok path := by
    cases recorded definition exportPathProperty with
    | some path => exact ⟨path, rfl⟩
    | none =>
        have hexports : b.volumes.flatMap (exportAgents b.identity b.settings)
            = (b.volumes.map (fillVolume .nfs)).flatMap (exportAgents b.identity b.settings) := by
          rw [List.flatMap_map]
          rfl
        rw [hordered.volumesOf_volumeKeys, hexports]
        exact ⟨_, exportPathOf_exports hne _ _⟩
  obtain ⟨ips, hips⟩ : ∃ ips, allowedIpsOf (recorded definition allowedIpsProperty)
      (b.volumes.flatMap (exportAgents b.identity b.settings)) (volumesOf b.volumeKeys others)
        = .ok ips := by
    cases hrecord : recorded definition allowedIpsProperty with
    | some text =>
        rw [hrecord] at hnetworks
        exact ⟨_, (allowedIpsOf_some _ _ _ _ _).trans hnetworks⟩
    | none => exact exists_allowedIpsOf_exports _ _ _ _
  exact ⟨_, exportOf_toPromoter_reread hd hpath hips⟩

/-- **A subsystem without a service IP has no port**, so that its configuration cannot be read. -/
lemma subsystemOf_toPromoter_ne_ok {e : Endpoint .nvmeof} (hips : e.serviceIps = [])
    (hd : e.toPromoter placements = .ok d) (b : Endpoint .nvmeof) :
    subsystemOf d definition volumeDefinitions ≠ .ok b := by
  intro h
  obtain ⟨-, ⟨a, ha, hkind⟩, -⟩ := exists_of_subsystemOf_eq_ok h
  obtain ⟨service, hservice, rfl⟩ := toPromoter_eq_ok_iff.1 hd
  cases hservice
  rw [agents_single] at ha
  rcases agentsAround_cases ha with ⟨_, _, rfl⟩ | ⟨_, _, _, _, _, _, rfl⟩ | ⟨_, _, rfl⟩ | ha
  · simp [fileSystemKind, nvmePortKind] at hkind
  · simp [portBlock, ofList, portBlockKind, nvmePortKind] at hkind
  · simp [claim, ofList, addressKind, nvmePortKind] at hkind
  · simp only [hips, List.zipIdx_nil, List.map_nil, List.append_nil, List.mem_cons,
      List.mem_map] at ha
    rcases ha with rfl | ⟨v, -, rfl⟩
    · simp [subsystemAgent, ofList, subsystemKind, nvmePortKind] at hkind
    · simp [namespaceAgent, ofList, namespaceKind, nvmePortKind] at hkind

/-- **An endpoint that was read can be written without a volume and read again**, if it is written
at all and a subsystem has a service IP. -/
theorem exists_ofPromoter_withoutVolume {e : Endpoint p}
    (h : ofPromoter p c definition volumeDefinitions = .ok e) (number : UInt32)
    (hips : p = .nvmeof → e.serviceIps ≠ [])
    (hd : (e.withoutVolume number).toPromoter placements = .ok d)
    (others : List VolumeDefinition) : ∃ b, ofPromoter p d definition others = .ok b := by
  cases p with
  | iscsi =>
      have hblank : ∀ iqn ∈ initiators (e.withoutVolume number).settings, IsBlankFree iqn.text :=
        (exists_of_targetOf_eq_ok h).2.1
      rw [ofPromoter, targetOf_toPromoter_eq hd, readInitiators_eq_ok hblank]
      exact ⟨_, rfl⟩
  | nfs => exact exists_exportOf_withoutVolume h number hd others
  | nvmeof =>
      obtain ⟨ip, ips, haddresses⟩ := List.exists_cons_of_ne_nil (hips rfl)
      exact ⟨_, subsystemOf_toPromoter_reread (e := e.withoutVolume number) haddresses hd
        definition others⟩

end FailoverStorage.Endpoint

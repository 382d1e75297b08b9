import FailoverStorage.Proofs.Cluster.Replicas
import FailoverStorage.Proofs.Gateway.Resources

/-!
# What every history of calls keeps well placed

A cluster serves the calls of its two stores in any order, from whomever they come, and whether they
fail or not.  After any such history, if no request names a volume twice, its state is well placed
(`Cluster.wellPlaced_of_history`): placements list what is defined, no device is shared or handed
out again, and a resource is in use on its first node at most.

**Three invariants** carry this, and every call keeps each of them.

* `ClusterResource.Aligned`, a bound of a resource: definitions and placements agree in numbers.
* `ClusterResource.Led`, another one: nothing is in use behind the first placement.
* `Cluster.Accounted`, of the whole cluster: the devices that were ever handed out are those from
  the first number up to the counter, each of them once.
-/

namespace FailoverStorage

open FailoverStorage.Action

/-! ## Calls -/

/-- **A call to one of the two stores of a cluster**, or something that is provoked between calls:
a switch, the state of a disk, or a document that is written by hand. -/
inductive StoreCall where
  | ensureResource (request : ResourceRequest) (mayExtend : Bool)
  | deleteResource (name : String)
  | deleteVolume (name : String) (number : UInt32)
  | deployed (name : String)
  | placements (name : String)
  | findConfig (id : String)
  | listConfigs
  | ensureConfig (config : PromoterConfig)
  | attach (config : PromoterConfig)
  | detach (config : PromoterConfig)
  | deleteConfig (id : String)
  | switch (x : Switch)
  | setDiskState (name node : String) (number : UInt32) (state : DiskState)
  | storeText (id content : String) (attached : Bool)

namespace StoreCall

open Cluster (backend)

/-- **The cluster after a call**, whether it succeeds or fails. -/
def after : StoreCall → Cluster → Cluster
  | ensureResource request mayExtend, c => (backend.storage.ensure request mayExtend c).2
  | deleteResource name, c => (backend.storage.deleteResource name c).2
  | deleteVolume name number, c => (backend.storage.deleteVolume name number c).2
  | deployed name, c => (backend.storage.deployed name c).2
  | placements name, c => (backend.storage.placements name c).2
  | findConfig id, c => (backend.configs.find id c).2
  | listConfigs, c => (backend.configs.list c).2
  | ensureConfig config, c => (backend.configs.ensure config c).2
  | attach config, c => (backend.configs.attach config c).2
  | detach config, c => (backend.configs.detach config c).2
  | deleteConfig id, c => (backend.configs.delete id c).2
  | switch x, c => x.set c
  | setDiskState name node number state, c => (Cluster.setDiskState name node number state c).2
  | storeText id content attached, c => c.storeText id content attached

/-- A call names no volume twice. -/
def Distinct : StoreCall → Prop
  | ensureResource request _ => (request.volumes.map (·.number)).Nodup
  | _ => True

/-- Whether a call can change what is defined or placed. -/
def changesStorage : StoreCall → Bool
  | ensureResource .. | deleteResource _ | deleteVolume .. => true
  | _ => false

variable {call : StoreCall} {c : Cluster}

/-- Other calls leave the counter. -/
lemma nextMinor_after (hcall : call.changesStorage = false) (c : Cluster) :
    (call.after c).nextMinor = c.nextMinor := by
  cases call with
  | ensureResource | deleteResource | deleteVolume => cases hcall
  | deployed name => exact congrArg Cluster.nextMinor (Cluster.readOnly_deployed name c)
  | placements name =>
      rcases Cluster.placements_cases name c with ⟨n, err, h⟩ | h
      · exact congrArg (fun x => x.2.nextMinor) h
      · refine (congrArg (fun x => x.2.nextMinor) h).trans ?_
        show (Cluster.passTime name c).nextMinor = c.nextMinor
        rw [Cluster.passTime]
        split <;> rfl
  | findConfig id => exact congrArg Cluster.nextMinor (Cluster.readOnly_findConfig id c)
  | detach config =>
      rcases Cluster.detach_cases config c with ⟨-, err, h⟩ | h
      · exact congrArg (fun x => x.2.nextMinor) h
      · exact congrArg (fun x => x.2.nextMinor) h
  | deleteConfig id =>
      show (Cluster.withoutConfig id c).nextMinor = c.nextMinor
      rw [Cluster.withoutConfig]
      split
      · rfl
      · simp only
        split <;> rfl
  | setDiskState name node number state =>
      rcases Cluster.setDiskState_cases name node number state c with ⟨err, h⟩ | h
      · exact congrArg (fun x => x.2.nextMinor) h
      · exact congrArg (fun x => x.2.nextMinor) h
  | listConfigs | ensureConfig | attach | switch | storeText => rfl

/-- Other calls leave of each resource what neither time nor the states of disks change. -/
lemma map_find?_after {α : Type} {f : ClusterResource → α} (h : ClusterResource.Timeless f)
    (hcall : call.changesStorage = false) (c : Cluster) (other : String) :
    ((call.after c).resources.find? other).map f = (c.resources.find? other).map f := by
  cases call with
  | ensureResource | deleteResource | deleteVolume => cases hcall
  | deployed name =>
      exact congrArg (fun c : Cluster => (c.resources.find? other).map f)
        (Cluster.readOnly_deployed name c)
  | placements name => exact h.placements name other c
  | findConfig id =>
      exact congrArg (fun c : Cluster => (c.resources.find? other).map f)
        (Cluster.readOnly_findConfig id c)
  | attach config =>
      exact h.schedule config true { c with
        configs := c.configs.insert config.path { content := config.toToml, attached := true } }
        other
  | detach config => exact h.detach config c other
  | deleteConfig id => exact h.withoutConfig id c other
  | setDiskState name node number state => exact h.setDiskState name node number state c other
  | listConfigs | ensureConfig | switch | storeText => rfl

/-- **Every call keeps what lasts of every resource.** -/
lemma all_after {Q : ClusterResource → Prop} (hQ : ClusterResource.Lasts Q) (call : StoreCall)
    (h : c.All Q) : (call.after c).All Q := by
  cases call with
  | ensureResource request mayExtend => exact h.ensureResource hQ request mayExtend
  | deleteResource name => exact h.deleteResource name
  | deleteVolume name number => exact h.deleteVolume hQ name number
  | deployed name => exact (congrArg (Cluster.All Q) (Cluster.readOnly_deployed name c)).mpr h
  | placements name => exact h.placements hQ name
  | findConfig id => exact (congrArg (Cluster.All Q) (Cluster.readOnly_findConfig id c)).mpr h
  | attach config => exact h.attach hQ config
  | detach config => exact h.detach hQ config
  | deleteConfig id => exact h.withoutConfig hQ id
  | setDiskState name node number state => exact h.setDiskState hQ name node number state
  | listConfigs | ensureConfig | switch | storeText => exact h

end StoreCall

/-! ## Numbers -/

namespace ClusterResource

/-- **Whatever can happen to a resource, its definitions know their numbers.** -/
lemma lasts_numbered : Lasts Numbered where
  new := fun _ _ _ h => nomatch h
  definition := fun _ _ h => h
  transition := fun _ _ h => h
  advance := fun r h => by
    rw [Cluster.advance]
    split <;> exact h
  withVolume := fun r d minor h number d' hd' => by
    rw [Cluster.withVolume, SortedMap.find?_insert] at hd'
    split at hd'
    · cases hd'
      exact Eq.symm ‹_›
    · exact h number d' hd'
  onNodes := fun _ _ _ _ h _ => h
  removeVolume := fun r number h number' d hd => by
    rw [Cluster.removeVolume, SortedMap.find?_erase] at hd
    split at hd
    · cases hd
    · exact h number' d hd
  withDiskState := fun _ _ _ _ h => h

/-- **Definitions know their numbers, and every placement lists exactly them**, in their order. -/
structure Aligned (r : ClusterResource) : Prop where
  defined : ∀ number d, r.volumes.find? number = some d → d.number = number
  placed : ∀ p ∈ r.placements, p.volumes.map (·.number) = r.volumes.keys

variable {r r' : ClusterResource}

lemma aligned_new (definition : ResourceDefinition) : Aligned { definition } :=
  ⟨fun _ _ h => (nomatch h), fun _ h => nomatch h⟩

lemma Aligned.withVolume (h : Aligned r) {d : VolumeDefinition}
    (hnew : r.volumes.find? d.number = none) (minor : Nat) :
    Aligned (Cluster.withVolume d minor r) :=
  ⟨lasts_numbered.withVolume r d minor h.defined,
    fun _ hp => map_number_withVolume h.placed hnew hp⟩

lemma Aligned.onNodes (h : Aligned r) (name : String) (minor : Nat) (nodes : List String) :
    Aligned (Cluster.onNodes name minor nodes r) :=
  ⟨h.defined, fun _ hp => map_number_of_mem_newPlacements hp⟩

lemma Aligned.removeVolume (h : Aligned r) (number : UInt32) :
    Aligned (Cluster.removeVolume number r) :=
  ⟨lasts_numbered.removeVolume r number h.defined,
    fun _ hp => map_number_removeVolume h.placed hp⟩

lemma Aligned.of_layout (h : Aligned r) (hlayout : r'.layout = r.layout) : Aligned r' := by
  have hvolumes : r'.volumes = r.volumes := (layout_eq_iff.1 hlayout).2.1
  refine ⟨hvolumes ▸ h.defined, fun p hp => ?_⟩
  obtain ⟨q, hq, hnumbers⟩ := exists_map_number_of_layout hlayout hp
  rw [hvolumes, ← h.placed q hq, hnumbers]

/-- The definitions are listed by their numbers. -/
lemma Aligned.map_number_values (h : Aligned r) :
    r.volumes.values.map (·.number) = r.volumes.keys := by
  rw [SortedMap.values, SortedMap.keys, List.map_map]
  exact List.map_congr_left fun e he =>
    h.defined e.1 e.2 (SortedMap.find?_eq_some_iff.2 he)

/-- **Placements stand in ascending order of number.** -/
lemma Aligned.ascending (h : Aligned r) {p : Placement} (hp : p ∈ r.placements) :
    Ascending PlacedVolume.number p.volumes :=
  List.pairwise_map.1 ((h.placed p hp).symm ▸ SortedMap.ascending_keys r.volumes)

end ClusterResource

namespace Cluster

open ClusterResource

section

variable {s : Cluster} {request : ResourceRequest} {mayExtend : Bool} {group : ResourceGroup}
  {missing : List Volume} {r : ClusterResource}
  (h : ∀ r, s.resources.find? request.name = some r → Aligned r)

include h

lemma aligned_prepared
    (hr : (prepared request group s).resources.find? request.name = some r) :
    Aligned r ∧ r.volumes = existingVolumes request s := by
  rw [existingVolumes]
  rcases prepared_cases hr with ⟨hnone, definition, rfl⟩ | ⟨old, definition, hold, rfl⟩
  · rw [hnone]
    exact ⟨aligned_new definition, rfl⟩
  · rw [hold]
    exact ⟨⟨(h old hold).defined, (h old hold).placed⟩, rfl⟩

variable (hdistinct : (request.volumes.map (·.number)).Nodup)

include hdistinct

/-- What is missing was not there, so each step defines a new volume. -/
lemma aligned_defined (hmissing : Missing request mayExtend s missing)
    (hr : (defined request missing (prepared request group s)).resources.find? request.name
      = some r) : Aligned r := by
  obtain ⟨r₀, hr₀⟩ := exists_find?_prepared request group s
  obtain ⟨haligned, hvolumes⟩ := aligned_prepared h hr₀
  obtain ⟨hsub, hnew, -⟩ := hmissing.spec fun r hr => Numbered.find?_values (h r hr).defined
  obtain ⟨r', hr', haligned', -⟩ := find?_defined (hdistinct.sublist (hsub.map _))
    (fun v _ _ minor hr hfree => hr.withVolume hfree minor) hr₀ haligned
    fun v hv => hvolumes ▸ hnew v hv
  cases hr.symm.trans hr'
  exact haligned'

/-- **Ensuring a resource keeps it aligned**, if the request names no volume twice. -/
lemma aligned_ensureResource
    (hr : (ensureResource request mayExtend s).2.resources.find? request.name = some r) :
    Aligned r := by
  have houtcome := ensureResource_outcome request mayExtend s
  revert houtcome hr
  generalize ensureResource request mayExtend s = outcome
  rintro hafter (_ | ⟨-, hmissing, -, -⟩ | ⟨-, hmissing, -, -⟩ | ⟨-, hmissing, hr, -, -⟩)
  · exact h r hafter
  · exact aligned_defined h hdistinct hmissing hafter
  · exact aligned_defined h hdistinct hmissing hafter
  · rw [find?_placed, if_pos rfl, hr] at hafter
    cases hafter
    exact (aligned_defined h hdistinct hmissing hr).onNodes _ _ _

end

variable {s t : Cluster}

/-- **Every call keeps every resource aligned**, if it names no volume twice. -/
lemma All.aligned_after (h : s.All Aligned) {call : StoreCall} (hcall : call.Distinct) :
    (call.after s).All Aligned := by
  by_cases hchanges : call.changesStorage = true
  · cases call with
    | ensureResource request mayExtend =>
        intro name r hr
        by_cases hname : name = request.name
        · subst hname
          exact aligned_ensureResource (h request.name) hcall hr
        · have hsame := (sameOutside_ensureResource none request mayExtend s).resources name hname
          exact h name r (hsame.symm.trans hr)
    | deleteResource name => exact h.deleteResource name
    | deleteVolume name number =>
        rcases deleteVolume_cases name number s with ⟨-, err, hrun⟩ | ⟨_, -, -, hrun⟩
        · exact (congrArg (fun x => Cluster.All Aligned x.2) hrun).mpr h
        · refine (congrArg (fun x => Cluster.All Aligned x.2) hrun).mpr ?_
          exact h.changeResource name fun r hr => hr.removeVolume number
    | _ => cases hchanges
  · intro name r hr
    have hlayout := StoreCall.map_find?_after timeless_layout (by simpa using hchanges) s name
    obtain ⟨r₀, hr₀, hsame⟩ := exists_of_layout?_eq hlayout hr
    exact (h name r₀ hr₀).of_layout hsame

end Cluster

/-! ## Use -/

namespace ClusterResource

/-- **Nothing is in use behind the first placement**, and every placement has a disk, so that the
first one is where a resource is promoted. -/
structure Led (r : ClusterResource) : Prop where
  disks : ∀ p ∈ r.placements, p.diskless = false
  free : ∀ p ∈ r.placements.tail, p.isInUse = false

variable {r r' : ClusterResource}

/-- Whether a resource is led shows in its disks and in where it is in use. -/
lemma Led.of_same (h : r.Led)
    (hsame : r'.placements.map (fun p => (p.diskless, p.isInUse))
      = r.placements.map fun p => (p.diskless, p.isInUse)) : r'.Led := by
  have hmem : ∀ (l l' : List Placement), l'.map (fun p => (p.diskless, p.isInUse))
      = l.map (fun p => (p.diskless, p.isInUse)) → ∀ p ∈ l', ∃ q ∈ l,
        q.diskless = p.diskless ∧ q.isInUse = p.isInUse := by
    intro l l' heq p hp
    obtain ⟨q, hq, hpair⟩ := List.mem_map.1 (heq ▸ List.mem_map_of_mem hp)
    exact ⟨q, hq, Prod.mk.inj hpair⟩
  refine ⟨fun p hp => ?_, fun p hp => ?_⟩
  · obtain ⟨q, hq, hdisk, -⟩ := hmem _ _ hsame p hp
    exact hdisk ▸ h.disks q hq
  · have htail := congrArg List.tail hsame
    rw [← List.map_tail, ← List.map_tail] at htail
    obtain ⟨q, hq, -, huse⟩ := hmem _ _ htail p hp
    exact huse ▸ h.free q hq

/-- Promoting a resource whose first placement has a disk leaves the others free. -/
lemma Led.settle (h : r.Led) (promote : Bool) {r' : ClusterResource}
    (hr' : r'.placements = Cluster.settle promote r.placements) : r'.Led := by
  refine ⟨fun p hp => ?_, fun p hp => ?_⟩
  · obtain ⟨q, hq, _, rfl⟩ := Status.exists_of_mem_settle (hr' ▸ hp)
    exact h.disks q hq
  · rw [hr'] at hp
    cases hplacements : r.placements with
    | nil =>
        rw [hplacements] at hp
        cases hp
    | cons q rest =>
        have hdisk := h.disks q (hplacements ▸ List.mem_cons_self)
        rw [hplacements, Cluster.settle, hdisk, Bool.and_false, List.tail_cons] at hp
        simpa using List.any_eq_false.1 (Cluster.any_isInUse_settle_false rest) p hp

/-- Nothing is in use on new placements. -/
lemma isInUse_of_mem_newPlacements {name : String} {numbers : List UInt32} {minor : Nat}
    {nodes : List String} {p : Placement}
    (hp : p ∈ Cluster.newPlacements name numbers minor nodes) : p.isInUse = false := by
  induction nodes generalizing minor with
  | nil => cases hp
  | cons node rest ih =>
      rcases List.mem_cons.1 hp with rfl | hp
      · rfl
      · exact ih hp

/-- **Whatever can happen to a resource, it is led by its first placement.** -/
lemma lasts_led : Lasts Led where
  new := fun _ => ⟨fun _ hp => (nomatch hp), fun _ hp => nomatch hp⟩
  definition := fun _ _ h => ⟨h.disks, h.free⟩
  transition := fun _ _ h => ⟨h.disks, h.free⟩
  advance := fun r h => by
    rw [Cluster.advance]
    split
    · exact h
    · exact h.settle _ rfl
    · exact ⟨h.disks, h.free⟩
  withVolume := fun _ _ _ h => h.of_same (map_extendPlacements (fun _ _ => rfl) _ _ _)
  onNodes := fun _ _ _ _ _ _ => ⟨fun _ hp => (answers_newPlacements hp).1,
    fun _ hp => isInUse_of_mem_newPlacements (List.mem_of_mem_tail hp)⟩
  removeVolume := fun _ _ h => h.of_same (by simp only [Cluster.removeVolume, List.map_map]; rfl)
  withDiskState := fun _ _ number state h =>
    h.of_same (map_changeFirst (f := Cluster.setVolumeState number state) (fun _ => rfl) _ _)

end ClusterResource

/-! ## Devices -/

namespace Cluster

variable {s t : Cluster} {issued : List Replica}

/-- **Every call keeps some replicas and puts fresh ones on the next devices.** -/
theorem turnover_after (call : StoreCall) (c : Cluster) : Turnover c (call.after c) := by
  by_cases hchanges : call.changesStorage = true
  · cases call with
    | ensureResource request mayExtend =>
        exact (issues_ensureResource request mayExtend c).turnover
    | deleteResource name => exact turnover_deleteResource name c
    | deleteVolume name number => exact turnover_deleteVolume name number c
    | _ => cases hchanges
  · have hcall : call.changesStorage = false := by simpa using hchanges
    exact .of_same (replicas_congr fun name =>
      StoreCall.map_find?_after (timeless_replicas name) hcall c name)
      (StoreCall.nextMinor_after hcall c)

/-- The replicas that a step created. -/
def created (s t : Cluster) : List Replica := t.replicas.filter (· ∉ s.replicas)

/-- The replicas that were created in a history, call after call. -/
def everCreated : List StoreCall → Cluster → List Replica
  | [], _ => []
  | call :: calls, c => created c (call.after c) ++ everCreated calls (call.after c)

/-- The cluster after a history of calls. -/
def afterAll (calls : List StoreCall) (c : Cluster) : Cluster :=
  calls.foldl (fun c call => call.after c) c

/-- **The books of a cluster**: the devices that were ever handed out are those from the first
number up to the counter, each once, and every replica that there is was handed one of them. -/
structure Accounted (issued : List Replica) (c : Cluster) : Prop where
  counter : c.nextMinor = 1000 + issued.length
  devices : (issued.map (·.device)).Perm ((List.range' 1000 issued.length).map deviceOf)
  present : c.replicas.Subperm issued

/-- What was handed out is below the counter. -/
lemma Accounted.exists_device (h : Accounted issued s) {x : Replica} (hx : x ∈ issued) :
    ∃ minor, 1000 ≤ minor ∧ minor < s.nextMinor ∧ x.device = deviceOf minor := by
  obtain ⟨minor, hminor, hdevice⟩ := List.mem_map.1 (h.devices.mem_iff.1 (List.mem_map_of_mem hx))
  have hcounter := h.counter
  obtain ⟨hlow, hhigh⟩ := List.mem_range'_1.1 hminor
  exact ⟨minor, hlow, by omega, hdevice.symm⟩

/-- Each device was handed out once. -/
lemma Accounted.nodup_devices (h : Accounted issued s) : (issued.map (·.device)).Nodup :=
  h.devices.nodup_iff.2 (List.Nodup.map (fun _ _ => deviceOf_inj) List.nodup_range')

/-- No two replicas that there are share a device. -/
lemma Accounted.nodup_present (h : Accounted issued s) : (s.replicas.map (·.device)).Nodup := by
  obtain ⟨l, hperm, hsub⟩ := h.present
  exact (hperm.map _).nodup_iff.1 (h.nodup_devices.sublist (hsub.map _))

/-- **What a step created are the replicas on the devices that it took.** -/
lemma Accounted.created_perm (h : Accounted issued s) {kept fresh : List Replica}
    (hperm : t.replicas.Perm (kept ++ fresh)) (hkept : kept.Subperm s.replicas)
    (hfresh : OnDevices s.nextMinor fresh) : (created s t).Perm fresh := by
  have hold : kept.filter (· ∉ s.replicas) = [] :=
    List.filter_eq_nil_iff.2 fun x hx => by simpa using hkept.subset hx
  have hnew : fresh.filter (· ∉ s.replicas) = fresh := by
    refine List.filter_eq_self.2 fun x hx => decide_eq_true fun hin => ?_
    obtain ⟨minor, -, hlow, hdevice⟩ := h.exists_device (h.present.subset hin)
    obtain ⟨minor', hminor', hdevice'⟩ :=
      List.mem_map.1 (hfresh ▸ List.mem_map_of_mem (f := Replica.device) hx)
    have heq := deviceOf_inj (hdevice'.trans hdevice)
    have := List.mem_range'_1.1 hminor'
    omega
  have hfilter := hperm.filter (· ∉ s.replicas)
  rwa [List.filter_append, hold, hnew, List.nil_append] at hfilter

/-- **Every step of this kind keeps the books.** -/
lemma Accounted.turnover (h : Accounted issued s) (hstep : Turnover s t) :
    Accounted (issued ++ created s t) t := by
  obtain ⟨kept, fresh, hperm, hkept, hfresh, hminor⟩ := hstep
  have hcreated := h.created_perm hperm hkept hfresh
  have hlength := hcreated.length_eq
  refine ⟨?_, ?_, ?_⟩
  · rw [hminor, h.counter, List.length_append, hlength, Nat.add_assoc]
  · rw [List.map_append, List.length_append, hlength, ← List.range'_append_1, List.map_append,
      ← h.counter, ← hfresh]
    exact h.devices.append (hcreated.map _)
  · exact hperm.subperm.trans (((List.subperm_append_right fresh).2
      (hkept.trans h.present)).trans (hcreated.symm.append_left issued).subperm)

/-- A fresh cluster has handed out nothing. -/
lemma accounted_fresh (nodes : List String) (groups : SortedMap String ResourceGroup)
    (transitionPolls : Nat) : Accounted [] { nodes, groups, transitionPolls } :=
  ⟨rfl, .nil, .refl _⟩

/-- **Every history keeps the books.** -/
theorem Accounted.afterAll (h : Accounted issued s) (calls : List StoreCall) :
    Accounted (issued ++ everCreated calls s) (afterAll calls s) := by
  induction calls generalizing s issued with
  | nil => rwa [everCreated, List.append_nil]
  | cons call calls ih =>
      rw [everCreated, ← List.append_assoc]
      exact ih (h.turnover (turnover_after call s))

/-- What every call keeps, every history keeps. -/
lemma afterAll_induction {motive : Cluster → Prop} {calls : List StoreCall}
    (hstep : ∀ call ∈ calls, ∀ c, motive c → motive (call.after c)) (hs : motive s) :
    motive (Cluster.afterAll calls s) := by
  induction calls generalizing s with
  | nil => exact hs
  | cons call calls ih =>
      exact ih (fun other hother => hstep other (List.mem_cons_of_mem _ hother))
        (hstep call List.mem_cons_self s hs)

/-! ## Histories -/

/-- **A cluster whose replicas are well placed**, given the replicas that were ever created on
it. -/
structure WellPlaced (issued : List Replica) (c : Cluster) : Prop where
  /-- Definitions are listed by their numbers, and each placement lists exactly these. -/
  numbers : ∀ name r, c.resources.find? name = some r →
    r.volumes.values.map (·.number) = r.volumes.keys
      ∧ ∀ p ∈ r.placements, p.volumes.map (·.number) = r.volumes.keys
        ∧ Ascending PlacedVolume.number p.volumes
  /-- No two replicas share a device. -/
  unshared : (c.replicas.map (·.device)).Nodup
  /-- No device was handed out twice, not even after its volume or its resource was deleted. -/
  unrepeated : (issued.map (·.device)).Nodup
  /-- What there is was created. -/
  present : c.replicas ⊆ issued
  /-- Each replica was handed the device of a number below the counter. -/
  devices : ∀ x ∈ issued, ∃ minor, 1000 ≤ minor ∧ minor < c.nextMinor ∧ x.device = deviceOf minor
  /-- The counter counts what was created; so it has 32 bits, as long as fewer than `2 ^ 32 - 1000`
  replicas were. -/
  counter : c.nextMinor = 1000 + issued.length
  /-- A resource is in use on the first node at most. -/
  inUse : ∀ name r, c.resources.find? name = some r → ∀ p ∈ r.placements.tail, p.isInUse = false

/-- **Every history leaves a cluster well placed**: on any nodes, with any groups, whatever is
called and whether it fails or not, if no request names a volume twice. -/
theorem wellPlaced_of_history (nodes : List String) (groups : SortedMap String ResourceGroup)
    (transitionPolls : Nat) (calls : List StoreCall) (hcalls : ∀ call ∈ calls, call.Distinct) :
    WellPlaced (everCreated calls { nodes, groups, transitionPolls })
      (afterAll calls { nodes, groups, transitionPolls }) := by
  have hbooks := (accounted_fresh nodes groups transitionPolls).afterAll calls
  rw [List.nil_append] at hbooks
  have haligned : (afterAll calls { nodes, groups, transitionPolls }).All
      ClusterResource.Aligned :=
    afterAll_induction (fun call hcall _ h => h.aligned_after (hcalls call hcall))
      fun _ _ hr => nomatch hr
  have hled : (afterAll calls { nodes, groups, transitionPolls }).All ClusterResource.Led :=
    afterAll_induction (fun call _ _ h => StoreCall.all_after ClusterResource.lasts_led call h)
      fun _ _ hr => nomatch hr
  exact
    { numbers := fun name r hr => ⟨(haligned name r hr).map_number_values, fun p hp =>
        ⟨(haligned name r hr).placed p hp, (haligned name r hr).ascending hp⟩⟩
      unshared := hbooks.nodup_present
      unrepeated := hbooks.nodup_devices
      present := hbooks.present.subset
      devices := fun _ hx => hbooks.exists_device hx
      counter := hbooks.counter
      inUse := fun name r hr => (hled name r hr).free }

/-- A request for volumes of some numbers. -/
def requestOf (numbers : List UInt32) : ResourceRequest :=
  { name := "data", resourceGroup := defaultResourceGroup
    volumes := numbers.map fun number => { number, sizeKib := 1024 } }

/-- A history in which a volume is deleted and requested again, and the resource promoted. -/
def regrown : List StoreCall :=
  [.ensureResource (requestOf [0, 1]) false, .deleteVolume "data" 1,
    .ensureResource (requestOf [0, 2, 1]) true, .attach (.single "nfs-data" "data" []),
    .placements "data"]

/-- The volume that was deleted comes back on new devices. -/
theorem wellPlaced_regrown : (∀ call ∈ regrown, call.Distinct)
    ∧ WellPlaced (everCreated regrown {}) (afterAll regrown {})
    ∧ (everCreated regrown {}).map (fun x => (x.number, x.device))
      = [(0, deviceOf 1000), (1, deviceOf 1001), (0, deviceOf 1002), (1, deviceOf 1003),
        (1, deviceOf 1006), (2, deviceOf 1004), (1, deviceOf 1007), (2, deviceOf 1005)]
    ∧ (afterAll regrown {}).replicas.map (fun x => (x.number, x.device))
      = [(0, deviceOf 1000), (1, deviceOf 1006), (2, deviceOf 1004), (0, deviceOf 1002),
        (1, deviceOf 1007), (2, deviceOf 1005)]
    ∧ ((afterAll regrown {}).resources.find? "data").map (·.placements.map (·.isInUse))
      = some [true, false] := by
  have hcalls : ∀ call ∈ regrown, call.Distinct := by
    simp [regrown, StoreCall.Distinct, requestOf]
  exact ⟨hcalls, wellPlaced_of_history _ _ _ regrown hcalls, by decide +kernel, by decide +kernel,
    by decide +kernel⟩

end Cluster

end FailoverStorage

import FailoverStorage.Proofs.Cluster.Primitives
import FailoverStorage.Proofs.Data.Sorting
import FailoverStorage.Proofs.Endpoint.Configuration

/-!
# Sound resources

A resource is sound if its volume definitions know their numbers and have sizes, if every placement
lists exactly the defined volumes, and if the cluster-private volume is there
(`ClusterResource.Sound`).

**Steps.**  Defining a new volume, placing a resource and removing a volume keep the definitions and
the placements in step (`ClusterResource.Coherent`).

**Ensuring.**  Whatever a resource is asked to become, it ends as a sound resource that has all the
requested volumes and properties, or nothing has changed (`Cluster.ensureResource_cases`).  That
holds even if placing it fails half-way.
-/

namespace FailoverStorage

/-! ## Listings by number -/

/-- The numbers of a map ascend. -/
lemma SortedMap.ascending_keys {α : Type} (m : SortedMap UInt32 α) : Ascending id m.keys :=
  List.pairwise_map.2 (m.ascending.imp fun h => Std.compare_eq_lt.1 h)

/-- Ascending lists with the same numbers are the same. -/
lemma Ascending.eq_of_mem_iff {l m : List UInt32} (hl : Ascending id l) (hm : Ascending id m)
    (h : ∀ n, n ∈ l ↔ n ∈ m) : l = m := by
  have : Std.Irrefl fun a b : UInt32 => id a < id b := ⟨fun a => UInt32.lt_irrefl a⟩
  have : Std.Antisymm fun a b : UInt32 => id a < id b :=
    ⟨fun a b hab hba => absurd (UInt32.lt_trans hab hba) (UInt32.lt_irrefl a)⟩
  exact List.Pairwise.eq_of_mem_iff hl hm fun n => h n

namespace ClusterResource

/-! ## Coherent resources -/

/-- **Definitions know their numbers.** -/
def Numbered (r : ClusterResource) : Prop :=
  ∀ number d, r.volumes.find? number = some d → d.number = number

/-- A definition is found in the listing by its number. -/
lemma Numbered.find?_values {r : ClusterResource} (h : r.Numbered) (number : UInt32) :
    r.volumes.values.find? (·.number = number) = r.volumes.find? number :=
  SortedMap.find?_values (fun e he =>
    h e.1 e.2 (SortedMap.find?_eq_some_iff.2 he)) number

/-- **Definitions and placements are in step.** -/
structure Coherent (r : ClusterResource) : Prop where
  defined : ∀ number d, r.volumes.find? number = some d → d.number = number ∧ d.sizeKib ≠ 0
  placed : ∀ p ∈ r.placements, p.volumes.map (·.number) = r.volumes.keys

variable {r : ClusterResource}

lemma Coherent.numbered (h : Coherent r) : r.Numbered := fun number d hd =>
  (h.defined number d hd).1

lemma Coherent.find?_values (h : Coherent r) (number : UInt32) :
    r.volumes.values.find? (·.number = number) = r.volumes.find? number :=
  h.numbered.find?_values number

lemma mem_extendPlacements {number : UInt32} {minor : Nat} {ps : List Placement} {p : Placement}
    (hp : p ∈ Cluster.extendPlacements number minor ps) : ∃ q ∈ ps, ∃ minor',
      p.volumes = sortOn PlacedVolume.number (q.volumes ++ [Cluster.newVolume number minor']) := by
  induction ps generalizing minor with
  | nil => cases hp
  | cons q rest ih =>
      rcases List.mem_cons.1 hp with rfl | hp
      · exact ⟨q, List.mem_cons_self, minor, rfl⟩
      · obtain ⟨q', hq', minor', h⟩ := ih hp
        exact ⟨q', List.mem_cons_of_mem _ hq', minor', h⟩

/-- Extending placements changes nothing but their volumes. -/
lemma map_extendPlacements {α : Type} {f : Placement → α}
    (hf : ∀ p volumes, f { p with volumes } = f p) (number : UInt32) (minor : Nat)
    (ps : List Placement) : (Cluster.extendPlacements number minor ps).map f = ps.map f := by
  induction ps generalizing minor with
  | nil => rfl
  | cons p rest ih => rw [Cluster.extendPlacements, List.map_cons, List.map_cons, ih, hf]

/-- **A new volume is listed wherever a resource is placed**, in its place among the numbers. -/
lemma map_number_withVolume (h : ∀ p ∈ r.placements, p.volumes.map (·.number) = r.volumes.keys)
    {d : VolumeDefinition} (hnew : r.volumes.find? d.number = none) {minor : Nat} {p : Placement}
    (hp : p ∈ (Cluster.withVolume d minor r).placements) :
    p.volumes.map (·.number) = (Cluster.withVolume d minor r).volumes.keys := by
  obtain ⟨q, hq, minor', hvolumes⟩ := mem_extendPlacements hp
  have hnumbers : (q.volumes ++ [Cluster.newVolume d.number minor']).map (·.number)
      = r.volumes.keys ++ [d.number] := by
    rw [List.map_append, h q hq]
    rfl
  have hfresh : d.number ∉ r.volumes.keys := by
    rw [SortedMap.mem_keys_iff, hnew]
    simp
  have hnodup : (r.volumes.keys ++ [d.number]).Nodup :=
    List.nodup_append.2 ⟨r.volumes.nodup_keys, List.nodup_singleton _, by
      rintro a ha b hb rfl
      rw [List.mem_singleton.1 hb] at ha
      exact hfresh ha⟩
  have hsorted := ascending_sortOn PlacedVolume.number (hnumbers ▸ hnodup)
  rw [hvolumes]
  refine Ascending.eq_of_mem_iff (List.pairwise_map.2 hsorted) (SortedMap.ascending_keys _)
    fun n => ?_
  have hperm := (sortOn_perm PlacedVolume.number
    (q.volumes ++ [Cluster.newVolume d.number minor'])).map (·.number)
  rw [hperm.mem_iff, hnumbers, Cluster.withVolume, SortedMap.mem_keys_iff,
    SortedMap.find?_insert, List.mem_append, List.mem_singleton, SortedMap.mem_keys_iff]
  by_cases hn : n = d.number <;> simp [hn]

/-- **A new volume keeps a resource coherent.** -/
lemma Coherent.withVolume (h : Coherent r) {d : VolumeDefinition}
    (hnew : r.volumes.find? d.number = none) (hsize : d.sizeKib ≠ 0) (minor : Nat) :
    Coherent (Cluster.withVolume d minor r) := by
  refine ⟨fun number d' hd' => ?_, fun p hp => map_number_withVolume h.placed hnew hp⟩
  rw [Cluster.withVolume, SortedMap.find?_insert] at hd'
  split at hd'
  · cases hd'
    exact ⟨Eq.symm ‹_›, hsize⟩
  · exact h.defined number d' hd'

lemma map_number_newVolumes (minor : Nat) (numbers : List UInt32) :
    (Cluster.newVolumes minor numbers).map (·.number) = numbers := by
  induction numbers generalizing minor with
  | nil => rfl
  | cons number rest ih => rw [Cluster.newVolumes, List.map_cons, ih, Cluster.newVolume]

lemma map_number_of_mem_newPlacements {name : String} {numbers : List UInt32} {minor : Nat}
    {nodes : List String} {p : Placement}
    (hp : p ∈ Cluster.newPlacements name numbers minor nodes) :
    p.volumes.map (·.number) = numbers := by
  induction nodes generalizing minor with
  | nil => cases hp
  | cons node rest ih =>
      rcases List.mem_cons.1 hp with rfl | hp
      · exact map_number_newVolumes minor numbers
      · exact ih hp

/-- Placing a resource places what is defined. -/
lemma Coherent.onNodes (h : Coherent r) (name : String) (minor : Nat) (nodes : List String) :
    Coherent (Cluster.onNodes name minor nodes r) :=
  ⟨h.defined, fun _ hp => map_number_of_mem_newPlacements hp⟩

/-- **Removing a volume removes it wherever a resource is placed.** -/
lemma map_number_removeVolume
    (h : ∀ p ∈ r.placements, p.volumes.map (·.number) = r.volumes.keys) {number : UInt32}
    {p : Placement} (hp : p ∈ (Cluster.removeVolume number r).placements) :
    p.volumes.map (·.number) = (Cluster.removeVolume number r).volumes.keys := by
  obtain ⟨q, hq, rfl⟩ := List.mem_map.1 hp
  rw [Cluster.removeVolume, SortedMap.keys_erase, ← h q hq, List.filter_map]
  rfl

/-- Removing a volume keeps a resource coherent. -/
lemma Coherent.removeVolume (h : Coherent r) (number : UInt32) :
    Coherent (Cluster.removeVolume number r) := by
  refine ⟨fun number' d hd => ?_, fun p hp => map_number_removeVolume h.placed hp⟩
  rw [Cluster.removeVolume, SortedMap.find?_erase] at hd
  split at hd
  · cases hd
  · exact h.defined number' d hd

/-! ## Sound resources -/

/-- **A sound resource of a name** is coherent and has its private volume. -/
structure Sound (name : String) (r : ClusterResource) : Prop where
  coherent : Coherent r
  name : r.definition.name = name
  privateVolume : (r.volumes.find? Volume.privateNumber).map (·.sizeKib)
    = some Volume.clusterPrivate.sizeKib

/-- A resource stays sound without one of its data volumes. -/
lemma Sound.removeVolume {name : String} (h : Sound name r) {number : UInt32}
    (hnumber : number ≠ Volume.privateNumber) : Sound name (Cluster.removeVolume number r) := by
  refine ⟨h.coherent.removeVolume number, h.name, ?_⟩
  rw [Cluster.removeVolume, SortedMap.find?_erase, if_neg hnumber.symm]
  exact h.privateVolume

/-! ## Layouts -/

/-- **What a configuration and a request see of a resource**: definition, volumes and devices, but
neither who uses it nor the states of its disks. -/
def layout (r : ClusterResource) : ResourceDefinition × SortedMap UInt32 VolumeDefinition
    × List (List (UInt32 × Option String)) :=
  (r.definition, r.volumes, Endpoint.deviceLayout r.placements)

variable {r' : ClusterResource}

lemma layout_eq_iff : r'.layout = r.layout ↔ r'.definition = r.definition
    ∧ r'.volumes = r.volumes
    ∧ Endpoint.deviceLayout r'.placements = Endpoint.deviceLayout r.placements := by
  rw [layout, layout, Prod.mk.injEq, Prod.mk.injEq]

/-- The numbers on a placement show in the layout. -/
lemma exists_map_number_of_layout (hlayout : r'.layout = r.layout) {p : Placement}
    (hp : p ∈ r'.placements) :
    ∃ q ∈ r.placements, q.volumes.map (·.number) = p.volumes.map (·.number) := by
  have hmem : (p.volumes.map fun v => (v.number, v.devicePath))
      ∈ Endpoint.deviceLayout r.placements := by
    rw [← (layout_eq_iff.1 hlayout).2.2]
    exact List.mem_map_of_mem hp
  obtain ⟨q, hq, heq⟩ := List.mem_map.1 hmem
  have hnumbers := congrArg (List.map Prod.fst) heq
  rw [List.map_map, List.map_map] at hnumbers
  exact ⟨q, hq, hnumbers⟩

/-- Whether a resource is sound shows in its layout. -/
lemma Sound.of_layout {name : String} (h : Sound name r) (hlayout : r'.layout = r.layout) :
    Sound name r' := by
  obtain ⟨hdefinition, hvolumes, -⟩ := layout_eq_iff.1 hlayout
  refine ⟨⟨?_, fun p hp => ?_⟩, ?_, ?_⟩
  · rw [hvolumes]
    exact h.coherent.defined
  · obtain ⟨q, hq, hnumbers⟩ := exists_map_number_of_layout hlayout hp
    rw [hvolumes, ← h.coherent.placed q hq, hnumbers]
  · rw [hdefinition]
    exact h.name
  · rw [hvolumes]
    exact h.privateVolume

@[simp] lemma layout_scheduled (config : PromoterConfig) (name : String) (transition : Transition)
    (r : ClusterResource) : (Cluster.scheduled config name transition r).layout = r.layout := by
  rw [Cluster.scheduled]
  split <;> rfl

lemma deviceLayout_settle (promote : Bool) (ps : List Placement) :
    Endpoint.deviceLayout (Cluster.settle promote ps) = Endpoint.deviceLayout ps := by
  induction ps generalizing promote with
  | nil => rfl
  | cons p rest ih =>
      have htail := ih (promote && p.diskless)
      rw [Endpoint.deviceLayout] at htail
      rw [Cluster.settle, Endpoint.deviceLayout, List.map_cons, htail]
      rfl

@[simp] lemma layout_advance (r : ClusterResource) : (Cluster.advance r).layout = r.layout := by
  rw [Cluster.advance]
  split
  · rfl
  · exact layout_eq_iff.2 ⟨rfl, rfl, deviceLayout_settle _ _⟩
  · rfl

lemma map_changeFirst {α β : Type} {f : α → α} {g : α → β} (h : ∀ a, g (f a) = g a) (p : α → Bool)
    (l : List α) : (Cluster.changeFirst p f l).map g = l.map g := by
  induction l with
  | nil => rfl
  | cons a rest ih =>
      rw [Cluster.changeFirst]
      split
      · rw [List.map_cons, List.map_cons, h]
      · rw [List.map_cons, List.map_cons, ih]

@[simp] lemma layout_withDiskState (node : String) (number : UInt32) (state : DiskState)
    (r : ClusterResource) : (Cluster.withDiskState node number state r).layout = r.layout := by
  refine layout_eq_iff.2 ⟨rfl, rfl, map_changeFirst (fun p => ?_) _ _⟩
  exact map_changeFirst (f := fun v : PlacedVolume => { v with diskState := state })
    (fun _ => rfl) _ _

/-! ## What time does not change -/

/-- **What neither time nor the states of disks change** of a resource: how it is promoted and
demoted does not show. -/
structure Timeless {α : Type} (f : ClusterResource → α) : Prop where
  scheduled : ∀ config name transition r, f (Cluster.scheduled config name transition r) = f r
  advance : ∀ r, f (Cluster.advance r) = f r
  withDiskState : ∀ node number state r, f (Cluster.withDiskState node number state r) = f r

lemma timeless_layout : Timeless layout :=
  ⟨layout_scheduled, layout_advance, layout_withDiskState⟩

end ClusterResource

/-- What a change of one resource leaves as it is. -/
lemma Cluster.map_find?_changeResource {α : Type} {f : ClusterResource → α}
    {g : ClusterResource → ClusterResource} (h : ∀ r, f (g r) = f r) (c : Cluster)
    (name other : String) :
    ((c.changeResource name g).resources.find? other).map f = (c.resources.find? other).map f := by
  rw [find?_changeResource]
  split
  · rw [Option.map_map]
    exact congrArg (fun g => Option.map g _) (funext h)
  · rfl

namespace ClusterResource.Timeless

open Cluster

variable {α : Type} {f : ClusterResource → α} (h : Timeless f)

include h

lemma placements (name other : String) (c : Cluster) :
    ((Cluster.placements name c).2.resources.find? other).map f
      = (c.resources.find? other).map f := by
  rcases placements_cases name c with ⟨n, err, hrun⟩ | hrun
  · rw [hrun]
  · rw [hrun]
    show ((passTime name c).resources.find? other).map f = _
    rw [passTime]
    split
    · rfl
    · exact map_find?_changeResource h.advance _ _ _

lemma schedule (config : PromoterConfig) (promote : Bool) (c : Cluster) (other : String) :
    ((Cluster.schedule config promote c).resources.find? other).map f
      = (c.resources.find? other).map f := by
  rw [find?_schedule, Option.map_map]
  exact congrArg (fun g => Option.map g _) (funext (h.scheduled config other _))

lemma withoutConfig (id : String) (c : Cluster) (other : String) :
    ((Cluster.withoutConfig id c).resources.find? other).map f
      = (c.resources.find? other).map f := by
  rw [Cluster.withoutConfig]
  split
  · rfl
  · simp only
    split
    · exact h.schedule _ false _ other
    · rfl

lemma detach (config : PromoterConfig) (c : Cluster) (other : String) :
    ((Cluster.detach config c).2.resources.find? other).map f
      = (c.resources.find? other).map f := by
  rcases detach_cases config c with ⟨-, err, hrun⟩ | hrun
  · rw [hrun]
  · rw [hrun]
    exact h.schedule config false _ other

lemma setDiskState (name node : String) (number : UInt32) (state : DiskState) (c : Cluster)
    (other : String) :
    ((Cluster.setDiskState name node number state c).2.resources.find? other).map f
      = (c.resources.find? other).map f := by
  rcases setDiskState_cases name node number state c with ⟨err, hrun⟩ | hrun
  · rw [hrun]
  · rw [hrun]
    exact map_find?_changeResource (h.withDiskState node number state) _ _ _

end ClusterResource.Timeless

namespace Cluster

open ClusterResource

/-- The layout of what exists under a name. -/
def layout? (c : Cluster) (name : String) : Option (ResourceDefinition
    × SortedMap UInt32 VolumeDefinition × List (List (UInt32 × Option String))) :=
  (c.resources.find? name).map layout

/-- Reading placements leaves every layout. -/
lemma layout?_placements (name other : String) (c : Cluster) :
    (placements name c).2.layout? other = c.layout? other :=
  timeless_layout.placements name other c

/-- Promoting or demoting leaves every layout. -/
lemma layout?_schedule (config : PromoterConfig) (promote : Bool) (c : Cluster) (other : String) :
    (schedule config promote c).layout? other = c.layout? other :=
  timeless_layout.schedule config promote c other

/-- Deleting a configuration leaves every layout. -/
lemma layout?_withoutConfig (id : String) (c : Cluster) (other : String) :
    (withoutConfig id c).layout? other = c.layout? other :=
  timeless_layout.withoutConfig id c other

/-- Detaching a configuration leaves every layout. -/
lemma layout?_detach (config : PromoterConfig) (c : Cluster) (other : String) :
    (detach config c).2.layout? other = c.layout? other :=
  timeless_layout.detach config c other

/-- Setting a disk state leaves every layout. -/
lemma layout?_setDiskState (name node : String) (number : UInt32) (state : DiskState) (c : Cluster)
    (other : String) :
    (setDiskState name node number state c).2.layout? other = c.layout? other :=
  timeless_layout.setDiskState name node number state c other

lemma exists_of_layout?_eq {s t : Cluster} {name : String} (h : t.layout? name = s.layout? name)
    {r : ClusterResource} (hr : t.resources.find? name = some r) :
    ∃ r₀, s.resources.find? name = some r₀ ∧ r.layout = r₀.layout := by
  rw [layout?, layout?, hr, Option.map_some] at h
  obtain ⟨r₀, hr₀, hlayout⟩ := Option.map_eq_some_iff.1 h.symm
  exact ⟨r₀, hr₀, hlayout.symm⟩

end Cluster

/-! ## Requests -/

namespace ResourceRequest

/-- **A complete request** asks for the private volume, for no number twice and for no size 0. -/
structure Complete (request : ResourceRequest) : Prop where
  privateVolume : Volume.clusterPrivate ∈ request.volumes
  nodup : (request.volumes.map (·.number)).Nodup
  sizes : ∀ v ∈ request.volumes, v.sizeKib ≠ 0

/-- **What is missing** are the requested volumes that are not there, if every other one is there
with the requested size.  Where volumes may not be added, there must be none. -/
lemma missingAmong_eq_ok_iff {name : String} {existing : List VolumeDefinition} {mayExtend : Bool}
    {volumes missing : List Volume} :
    missingAmong name existing mayExtend volumes = .ok missing
      ↔ missing = volumes.filter (fun v => (existing.find? (·.number = v.number)).isNone)
        ∧ (∀ v ∈ volumes, ∀ d, existing.find? (·.number = v.number) = some d →
          d.sizeKib = v.sizeKib)
        ∧ (mayExtend = false → missing = []) := by
  induction volumes generalizing missing with
  | nil => simp +contextual [missingAmong, eq_comm]
  | cons v rest ih =>
      rw [missingAmong, List.filter_cons, List.forall_mem_cons]
      cases hfind : existing.find? (·.number = v.number) with
      | some d =>
          by_cases hsize : d.sizeKib = v.sizeKib
          · simp [hsize, ih]
          · simp [hsize]
      | none =>
          cases mayExtend with
          | false => simp +contextual
          | true =>
              have hmap : (missingAmong name existing true rest).map (v :: ·) = .ok missing
                  ↔ ∃ others, missingAmong name existing true rest = .ok others
                    ∧ v :: others = missing := map_eq_ok_iff
              rw [if_pos rfl, hmap]
              simp [ih, and_comm, eq_comm]

/-- The missing volumes are requested and not there; what is requested is missing or there. -/
lemma missingAmong_eq_ok {name : String} {existing : List VolumeDefinition} {mayExtend : Bool}
    {volumes missing : List Volume}
    (h : missingAmong name existing mayExtend volumes = .ok missing) :
    missing.Sublist volumes
      ∧ (∀ v ∈ missing, existing.find? (·.number = v.number) = none)
      ∧ ∀ v ∈ volumes, v ∈ missing ∨ (existing.find? (·.number = v.number)).isSome = true := by
  obtain ⟨rfl, -, -⟩ := missingAmong_eq_ok_iff.1 h
  refine ⟨List.filter_sublist, fun v hv => by simpa using (List.mem_filter.1 hv).2, fun v hv => ?_⟩
  cases hfind : existing.find? (·.number = v.number) with
  | none => exact .inl (List.mem_filter.2 ⟨hv, by rw [hfind]; rfl⟩)
  | some d => exact .inr rfl

/-- What was changed towards a request carries its properties. -/
lemma find?_override_changedProperties (request : ResourceRequest)
    (current : SortedMap String String) {key value : String}
    (h : request.properties.find? key = some value) :
    (current.override (request.changedProperties current)).find? key = some value := by
  rw [SortedMap.find?_override, changedProperties, SortedMap.find?_filter, h]
  by_cases hcurrent : current.find? key = some value
  · simp [hcurrent, Option.filter]
  · simp [hcurrent, Option.filter]

end ResourceRequest

/-! ## Ensuring a resource -/

namespace Cluster

open ClusterResource

variable {request : ResourceRequest} {s : Cluster}

/-- The volumes of what exists under the name of a request, if anything does. -/
def existingVolumes (request : ResourceRequest) (s : Cluster) : SortedMap UInt32 VolumeDefinition :=
  ((s.resources.find? request.name).map (·.volumes)).getD .empty

/-- The placements of what exists under the name of a request, if anything does. -/
def existingPlacements (request : ResourceRequest) (s : Cluster) : List Placement :=
  ((s.resources.find? request.name).map (·.placements)).getD []

/-- Preparing changes the properties alone, if the resource exists. -/
lemma find?_prepared (request : ResourceRequest) (group : ResourceGroup)
    (hname : ∀ r, s.resources.find? request.name = some r → r.definition.name = request.name) :
    ∃ r, (prepared request group s).resources.find? request.name = some r
      ∧ r.definition.name = request.name ∧ r.volumes = existingVolumes request s
      ∧ r.placements = existingPlacements request s
      ∧ ∀ key value, request.properties.find? key = some value →
        r.definition.properties.find? key = some value := by
  rw [prepared, existingVolumes, existingPlacements]
  cases hr : s.resources.find? request.name with
  | none =>
      refine ⟨_, (SortedMap.find?_insert _ _ _ _).trans (if_pos rfl), rfl, rfl, rfl, ?_⟩
      exact fun _ _ h => h
  | some r =>
      simp only [updateProperties]
      split
      · rename_i hempty
        refine ⟨r, hr, hname r hr, rfl, rfl, fun key value h => ?_⟩
        have hchanged := request.find?_override_changedProperties r.definition.properties h
        have hnone : (request.changedProperties r.definition.properties).find? key = none := by
          rw [SortedMap.find?, List.isEmpty_iff.1 hempty]
          rfl
        rwa [SortedMap.find?_override, hnone, Option.none_or] at hchanged
      · refine ⟨_, (find?_changeResource _ _ _ _).trans ((if_pos rfl).trans
          (congrArg (Option.map _) hr)), hname r hr, rfl, rfl, fun key value h => ?_⟩
        exact request.find?_override_changedProperties r.definition.properties h

/-- **Defining new volumes one after another** adds just them, and keeps what each of them keeps. -/
lemma find?_defined {Q : ClusterResource → Prop} {missing : List Volume}
    (hnodup : (missing.map (·.number)).Nodup)
    (hkeeps : ∀ v ∈ missing, ∀ r minor, Q r → r.volumes.find? v.number = none →
      Q (withVolume (request.volumeDefinition v) minor r)) {r : ClusterResource}
    (hr : s.resources.find? request.name = some r) (hQ : Q r)
    (hnew : ∀ v ∈ missing, r.volumes.find? v.number = none) :
    ∃ r', (defined request missing s).resources.find? request.name = some r' ∧ Q r'
      ∧ r'.definition = r.definition ∧ (r'.placements = [] ↔ r.placements = [])
      ∧ ∀ number, r'.volumes.find? number
        = ((missing.find? (·.number = number)).map request.volumeDefinition).or
          (r.volumes.find? number) := by
  induction missing generalizing s r with
  | nil => exact ⟨r, hr, hQ, rfl, .rfl, fun _ => rfl⟩
  | cons v rest ih =>
      obtain ⟨hv, hnodup⟩ := List.nodup_cons.1 hnodup
      have hother : ∀ w ∈ rest, w.number ≠ v.number := fun w hw heq =>
        hv (List.mem_map.2 ⟨w, hw, heq⟩)
      have hnumber : (request.volumeDefinition v).number = v.number := rfl
      have hstep : (defineVolume request.name (request.volumeDefinition v) s).resources.find?
          request.name = some (withVolume (request.volumeDefinition v) s.nextMinor r) := by
        rw [find?_defineVolume, if_pos rfl, hr, Option.map_some]
      have hvolumes : ∀ number,
          (withVolume (request.volumeDefinition v) s.nextMinor r).volumes.find? number
            = if number = v.number then some (request.volumeDefinition v)
              else r.volumes.find? number := fun number => by
        rw [withVolume, SortedMap.find?_insert, hnumber]
      obtain ⟨r', hr', hQ', hdefinition, hplacements, hfind⟩ :=
        ih hnodup (fun w hw => hkeeps w (List.mem_cons_of_mem _ hw)) hstep
          (hkeeps v List.mem_cons_self r _ hQ (hnew v List.mem_cons_self))
          fun w hw => by
            rw [hvolumes, if_neg (hother w hw)]
            exact hnew w (List.mem_cons_of_mem _ hw)
      refine ⟨r', hr', hQ', hdefinition, hplacements.trans ?_, fun number => ?_⟩
      · rw [withVolume]
        cases r.placements <;> simp [extendPlacements]
      · rw [hfind, hvolumes, List.find?_cons]
        by_cases hn : v.number = number
        · have hrest : rest.find? (·.number = number) = none := by
            refine List.find?_eq_none.2 fun w hw => ?_
            simpa [← hn] using hother w hw
          simp [hn, hrest]
        · simp [hn, Ne.symm hn]

/-- The missing volumes are new, and with them there is what is requested. -/
lemma Missing.spec {mayExtend : Bool} {missing : List Volume}
    (h : Missing request mayExtend s missing)
    (hfound : ∀ r, s.resources.find? request.name = some r → ∀ number,
      r.volumes.values.find? (·.number = number) = r.volumes.find? number) :
    missing.Sublist request.volumes
      ∧ (∀ v ∈ missing, (existingVolumes request s).find? v.number = none)
      ∧ ∀ v ∈ request.volumes, v ∈ missing
        ∨ ((existingVolumes request s).find? v.number).isSome = true := by
  rw [Missing] at h
  cases hr : s.resources.find? request.name with
  | none =>
      simp only [hr] at h
      simp only [existingVolumes, hr]
      exact ⟨h ▸ List.Sublist.refl _, fun _ _ => rfl, fun _ hv => .inl (h ▸ hv)⟩
  | some r =>
      simp only [hr] at h
      obtain ⟨hsub, hnone, hall⟩ := ResourceRequest.missingAmong_eq_ok h
      simp only [hfound r hr] at hnone hall
      simp only [existingVolumes, hr]
      exact ⟨hsub, hnone, hall⟩

/-- **What a resource is after it was ensured**: sound, with the requested volumes and properties
besides the volumes that it had. -/
structure Ensured (request : ResourceRequest) (s : Cluster) (r : ClusterResource) : Prop where
  sound : Sound request.name r
  covers : ∀ v ∈ request.volumes, (r.volumes.find? v.number).isSome = true
  recorded : ∀ key value, request.properties.find? key = some value →
    r.definition.properties.find? key = some value
  grown : ∀ number, ((existingVolumes request s).find? number).isSome = true →
    (r.volumes.find? number).isSome = true

lemma Ensured.onNodes {r : ClusterResource} (h : Ensured request s r) (name : String) (minor : Nat)
    (nodes : List String) : Ensured request s (onNodes name minor nodes r) :=
  { sound := ⟨h.sound.coherent.onNodes name minor nodes, h.sound.name, h.sound.privateVolume⟩
    covers := h.covers
    recorded := h.recorded
    grown := h.grown }

/-- The private volume is defined with its size, whether it was missing or there. -/
lemma private_of_missing (hcomplete : request.Complete)
    (hsound : ∀ r, s.resources.find? request.name = some r → Sound request.name r)
    {missing : List Volume} (hsub : missing.Sublist request.volumes)
    (hall : ∀ v ∈ request.volumes, v ∈ missing
      ∨ ((existingVolumes request s).find? v.number).isSome = true) :
    ((((missing.find? (·.number = Volume.privateNumber)).map request.volumeDefinition).or
      ((existingVolumes request s).find? Volume.privateNumber)).map (·.sizeKib))
        = some Volume.clusterPrivate.sizeKib := by
  cases hfind : missing.find? (·.number = Volume.privateNumber) with
  | some v =>
      have hnumber : v.number = Volume.privateNumber := by simpa using List.find?_some hfind
      have hv := hsub.subset (List.mem_of_find?_eq_some hfind)
      have hprivate : v = Volume.clusterPrivate :=
        List.inj_on_of_nodup_map hcomplete.nodup hv hcomplete.privateVolume hnumber
      rw [hprivate]
      rfl
  | none =>
      rcases hall _ hcomplete.privateVolume with hmem | hsome
      · have hnumber : Volume.clusterPrivate.number = Volume.privateNumber := rfl
        exact absurd hnumber (by simpa using List.find?_eq_none.1 hfind _ hmem)
      · rw [Option.map_none, Option.none_or]
        rw [existingVolumes] at hsome ⊢
        cases hr : s.resources.find? request.name with
        | none =>
            rw [hr] at hsome
            cases hsome
        | some r => exact (hsound r hr).privateVolume

/-- Defining what is missing ensures a resource, but for its placements. -/
lemma ensured_of_defined (hcomplete : request.Complete)
    (hsound : ∀ r, s.resources.find? request.name = some r → Sound request.name r)
    {mayExtend : Bool} {missing : List Volume} (hmissing : Missing request mayExtend s missing)
    {group : ResourceGroup} {r : ClusterResource}
    (hr : (defined request missing (prepared request group s)).resources.find? request.name
      = some r) :
    Ensured request s r ∧ (r.placements = [] ↔ existingPlacements request s = []) := by
  obtain ⟨r₀, hr₀, hname, hvolumes, hplacements, hrecorded⟩ :=
    find?_prepared request group fun r hr => (hsound r hr).name
  obtain ⟨hsub, hnew, hall⟩ := hmissing.spec fun r hr => (hsound r hr).coherent.find?_values
  have hcoherent : Coherent r₀ := by
    rcases prepared_cases hr₀ with ⟨-, definition, rfl⟩ | ⟨old, definition, hold, rfl⟩
    · exact ⟨fun _ _ hd => (nomatch hd), fun _ hp => (nomatch hp)⟩
    · have hcoherent := (hsound old hold).coherent
      exact ⟨hcoherent.defined, hcoherent.placed⟩
  obtain ⟨r', hr', hcoherent', hdefinition, hempty, hfind⟩ :=
    find?_defined (hcomplete.nodup.sublist (hsub.map _))
      (fun v hv _ minor h hfree => h.withVolume hfree (hcomplete.sizes v (hsub.subset hv)) minor)
      hr₀ hcoherent fun v hv => hvolumes ▸ hnew v hv
  cases hr.symm.trans hr'
  rw [hvolumes] at hfind
  have hgrown : ∀ number, ((existingVolumes request s).find? number).isSome = true →
      (r.volumes.find? number).isSome = true := fun number h => by
    rw [hfind, Option.isSome_or, h, Bool.or_true]
  have hcovers : ∀ v ∈ request.volumes, (r.volumes.find? v.number).isSome = true := fun v hv => by
    rcases hall v hv with hv | hv
    · have hsome : (missing.find? (·.number = v.number)).isSome = true :=
        List.find?_isSome.2 ⟨v, hv, by simp⟩
      rw [hfind, Option.isSome_or, Option.isSome_map, hsome, Bool.true_or]
    · exact hgrown v.number hv
  refine ⟨⟨⟨hcoherent', ?_, ?_⟩, hcovers, ?_, hgrown⟩, ?_⟩
  · rw [hdefinition, hname]
  · rw [hfind]
    exact private_of_missing hcomplete hsound hsub hall
  · rw [hdefinition]
    exact hrecorded
  · rw [hempty, hplacements]

/-- **Ensuring a resource** changes nothing and fails, or leaves it ensured; if it fails then, the
resource was and is not placed. -/
theorem ensureResource_cases (hcomplete : request.Complete)
    (hsound : ∀ r, s.resources.find? request.name = some r → Sound request.name r)
    (mayExtend : Bool) :
    (∃ err, ensureResource request mayExtend s = (.error err, s))
      ∨ ∃ result t r, ensureResource request mayExtend s = (result, t)
        ∧ t.resources.find? request.name = some r ∧ Ensured request s r
        ∧ match result with
          | .ok deployment => deployment.placements = r.placements
          | .error _ => r.placements = [] ∧ existingPlacements request s = [] := by
  have houtcome := ensureResource_outcome request mayExtend s
  revert houtcome
  generalize ensureResource request mayExtend s = outcome
  rintro (⟨err⟩ | ⟨hgroup, hmissing, hr, hplaced⟩ | ⟨hgroup, hmissing, hr, hplaced, err⟩
    | ⟨hgroup, hmissing, hr, hplaced, hr'⟩)
  · exact .inl ⟨err, rfl⟩
  · obtain ⟨hensured, -⟩ := ensured_of_defined hcomplete hsound hmissing hr
    exact .inr ⟨_, _, _, rfl, hr, hensured, rfl⟩
  · obtain ⟨hensured, hempty⟩ := ensured_of_defined hcomplete hsound hmissing hr
    exact .inr ⟨_, _, _, rfl, hr, hensured, hplaced, hempty.1 hplaced⟩
  · obtain ⟨hensured, -⟩ := ensured_of_defined hcomplete hsound hmissing hr
    have hnodes := hr'
    rw [find?_placed, if_pos rfl, hr] at hnodes
    cases hnodes
    exact .inr ⟨_, _, _, rfl, hr', hensured.onNodes _ _ _, rfl⟩

end Cluster

end FailoverStorage

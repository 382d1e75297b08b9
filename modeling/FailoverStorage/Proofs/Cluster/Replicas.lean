import FailoverStorage.Proofs.Cluster.Soundness
import FailoverStorage.Proofs.Text.Numeral

/-!
# Replicas and their devices

A replica is a volume on one of the nodes on which its resource is placed.  The cluster numbers the
devices of all replicas with one counter, whatever resource they belong to, so what matters of a
step is which replicas it keeps, which it creates and on which devices.

* `Cluster.Issues s t`: everything is kept, and fresh replicas are on the devices from the counter
  on.  Ensuring a resource is such a step, however it ends (`Cluster.issues_ensureResource`).
* `Cluster.Turnover s t`: some replicas are kept, too; so are the deletions.
-/

namespace FailoverStorage

/-! ## Replicas -/

/-- **A volume of a resource on a node**, with its device. -/
structure Replica where
  resource : String
  node : String
  number : UInt32
  device : Option String
  deriving DecidableEq

/-- The replicas that a placement of a resource holds. -/
def Placement.replicas (name : String) (p : Placement) : List Replica :=
  p.volumes.map fun v =>
    { resource := name, node := p.nodeName, number := v.number, device := v.devicePath }

/-- The replicas of a resource of a name. -/
def ClusterResource.replicas (name : String) (r : ClusterResource) : List Replica :=
  r.placements.flatMap (·.replicas name)

namespace Cluster

/-- **All replicas of a cluster.** -/
def replicas (c : Cluster) : List Replica :=
  c.resources.entries.flatMap fun e => e.2.replicas e.1

/-- The replicas of the resource of a name, if it exists. -/
def replicasOf (name : String) (c : Cluster) : List Replica :=
  ((c.resources.find? name).map (·.replicas name)).getD []

variable {c s t u : Cluster} {name : String} {kept fresh : List Replica}

/-- The replicas of a cluster are those of one resource and those of the others. -/
lemma perm_replicas (name : String) (c : Cluster) : c.replicas.Perm
    (replicasOf name c ++ replicas { c with resources := c.resources.erase name }) := by
  rw [replicasOf]
  cases hr : c.resources.find? name with
  | none =>
      rw [SortedMap.erase_of_find?_eq_none hr]
      exact .refl _
  | some r =>
      have hperm := (SortedMap.perm_cons_erase hr).flatMap_right fun e => e.2.replicas e.1
      rwa [List.flatMap_cons] at hperm

/-- What happens to one resource happens to its replicas. -/
lemma perm_of_replicasOf
    (hsame : ∀ other, other ≠ name → t.resources.find? other = s.resources.find? other)
    (h : (replicasOf name t).Perm (kept ++ fresh)) : t.replicas.Perm
      ((kept ++ replicas { s with resources := s.resources.erase name }) ++ fresh) := by
  have hothers : t.resources.erase name = s.resources.erase name :=
    SortedMap.ext_find? fun other => by
      rw [SortedMap.find?_erase, SortedMap.find?_erase]
      split
      · rfl
      · exact hsame other ‹_›
  have hperm := (perm_replicas name t).trans (h.append_right _)
  rw [replicas, replicas, hothers] at hperm
  rw [List.append_assoc] at hperm ⊢
  exact hperm.trans (List.perm_append_comm.append_left _)

/-- **Replicas show in what is found under each name.** -/
lemma replicas_congr (h : ∀ name, (t.resources.find? name).map (·.replicas name)
    = (s.resources.find? name).map (·.replicas name)) : t.replicas = s.replicas := by
  have hmaps : t.resources.mapValues (fun name r => r.replicas name)
      = s.resources.mapValues fun name r => r.replicas name :=
    SortedMap.ext_find? fun name => by
      rw [SortedMap.find?_mapValues, SortedMap.find?_mapValues, h]
  have hflat : ∀ c : Cluster, c.replicas
      = (c.resources.mapValues fun name r => r.replicas name).entries.flatMap (·.2) := fun c => by
    rw [replicas, SortedMap.mapValues, List.flatMap_map]
  rw [hflat, hflat, hmaps]

/-! ## Devices -/

/-- The device with a number. -/
def deviceOf (minor : Nat) : Option String := some ("/dev/drbd" ++ Text.decimal minor)

/-- No two numbers name one device. -/
lemma deviceOf_inj {m n : Nat} (h : deviceOf m = deviceOf n) : m = n :=
  Text.decimal_inj ((String.append_right_inj _).1 (Option.some.inj h))

/-- **Replicas are on the devices from a number on**, one after another. -/
def OnDevices (minor : Nat) (rs : List Replica) : Prop :=
  rs.map (·.device) = (List.range' minor rs.length).map deviceOf

lemma onDevices_nil (minor : Nat) : OnDevices minor [] := rfl

lemma onDevices_cons {minor : Nat} {x : Replica} {rs : List Replica}
    (hx : x.device = deviceOf minor) (h : OnDevices (minor + 1) rs) :
    OnDevices minor (x :: rs) := by
  rw [OnDevices, List.map_cons, hx, h, List.length_cons, List.range'_succ, List.map_cons]

lemma OnDevices.append {minor : Nat} {rs rs' : List Replica} (h : OnDevices minor rs)
    (h' : OnDevices (minor + rs.length) rs') : OnDevices minor (rs ++ rs') := by
  rw [OnDevices, List.map_append, h, h', ← List.map_append, List.range'_append_1,
    List.length_append]

/-- New volumes of a placement are on the next devices. -/
lemma onDevices_newVolumes (name : String) {minor : Nat} {numbers : List UInt32} {p : Placement}
    (hp : p.volumes = newVolumes minor numbers) :
    OnDevices minor (p.replicas name) ∧ (p.replicas name).length = numbers.length := by
  have hlength : p.volumes.length = numbers.length := by
    rw [← List.length_map (fun v : PlacedVolume => v.number), hp,
      ClusterResource.map_number_newVolumes]
  have hdevices : ∀ minor, (newVolumes minor numbers).map (·.devicePath)
      = (List.range' minor numbers.length).map deviceOf := by
    clear hp hlength
    induction numbers with
    | nil => exact fun _ => rfl
    | cons number rest ih =>
        intro minor
        rw [newVolumes, List.map_cons, ih, List.length_cons, List.range'_succ, List.map_cons]
        rfl
  rw [OnDevices, Placement.replicas, List.map_map, List.length_map, hlength, ← hdevices, hp]
  exact ⟨rfl, rfl⟩

/-- **A new resource is on the next devices**, node after node. -/
lemma onDevices_newPlacements (name : String) (numbers : List UInt32) (minor : Nat)
    (nodes : List String) :
    OnDevices minor ((newPlacements name numbers minor nodes).flatMap (·.replicas name))
      ∧ ((newPlacements name numbers minor nodes).flatMap (·.replicas name)).length
        = nodes.length * numbers.length := by
  induction nodes generalizing minor with
  | nil => exact ⟨onDevices_nil minor, (Nat.zero_mul _).symm⟩
  | cons node rest ih =>
      obtain ⟨hrest, hlength⟩ := ih (minor + numbers.length)
      rw [newPlacements, List.flatMap_cons]
      obtain ⟨hfirst, hcount⟩ := onDevices_newVolumes name (p :=
        { name, nodeName := node, inUse := some false, volumes := newVolumes minor numbers }) rfl
      refine ⟨hfirst.append (by rwa [hcount]), ?_⟩
      rw [List.length_append, hcount, hlength, List.length_cons, Nat.succ_mul, Nat.add_comm]

/-- **A new volume is on the next devices**, one for each placement, beside what is there. -/
lemma exists_perm_extendPlacements (name : String) (number : UInt32) (minor : Nat)
    (ps : List Placement) :
    ∃ fresh, ((extendPlacements number minor ps).flatMap (·.replicas name)).Perm
        (ps.flatMap (·.replicas name) ++ fresh)
      ∧ OnDevices minor fresh ∧ fresh.length = ps.length := by
  induction ps generalizing minor with
  | nil => exact ⟨[], .refl _, onDevices_nil minor, rfl⟩
  | cons p rest ih =>
      obtain ⟨fresh, hperm, hdevices, hlength⟩ := ih (minor + 1)
      let x : Replica :=
        { resource := name, node := p.nodeName, number, device := deviceOf minor }
      have hfirst : (Placement.replicas name { p with
          volumes := sortOn PlacedVolume.number (p.volumes ++ [newVolume number minor]) }).Perm
          (p.replicas name ++ [x]) := by
        have hsorted := (sortOn_perm PlacedVolume.number
          (p.volumes ++ [newVolume number minor])).map fun v =>
            ({ resource := name, node := p.nodeName, number := v.number, device := v.devicePath }
              : Replica)
        rwa [List.map_append] at hsorted
      refine ⟨x :: fresh, ?_, onDevices_cons rfl hdevices, congrArg (· + 1) hlength⟩
      rw [extendPlacements, List.flatMap_cons, List.flatMap_cons, List.append_assoc]
      refine (hfirst.append hperm).trans ?_
      rw [List.append_assoc, List.singleton_append]
      exact List.perm_middle.symm.append_left _

/-! ## Steps that issue devices -/

/-- **A step keeps all replicas and puts fresh ones on the next devices.** -/
def Issues (s t : Cluster) : Prop :=
  ∃ fresh, t.replicas.Perm (s.replicas ++ fresh) ∧ OnDevices s.nextMinor fresh
    ∧ t.nextMinor = s.nextMinor + fresh.length

lemma Issues.of_same (hreplicas : t.replicas = s.replicas) (hminor : t.nextMinor = s.nextMinor) :
    Issues s t :=
  ⟨[], by rw [hreplicas, List.append_nil], onDevices_nil _, hminor⟩

lemma Issues.trans (h : Issues s t) (h' : Issues t u) : Issues s u := by
  obtain ⟨fresh, hperm, hdevices, hminor⟩ := h
  obtain ⟨fresh', hperm', hdevices', hminor'⟩ := h'
  refine ⟨fresh ++ fresh', ?_, hdevices.append (hminor ▸ hdevices'), ?_⟩
  · rw [← List.append_assoc]
    exact hperm'.trans (hperm.append_right _)
  · rw [hminor', hminor, List.length_append, Nat.add_assoc]

/-- A step on one resource issues what the resource has more. -/
lemma Issues.of_replicasOf
    (hsame : ∀ other, other ≠ name → t.resources.find? other = s.resources.find? other)
    (h : (replicasOf name t).Perm (replicasOf name s ++ fresh))
    (hdevices : OnDevices s.nextMinor fresh)
    (hminor : t.nextMinor = s.nextMinor + fresh.length) : Issues s t :=
  ⟨fresh, (perm_of_replicasOf hsame h).trans ((perm_replicas name s).symm.append_right _),
    hdevices, hminor⟩

lemma Issues.of_kept
    (hsame : ∀ other, other ≠ name → t.resources.find? other = s.resources.find? other)
    (h : (replicasOf name t).Perm (replicasOf name s)) (hminor : t.nextMinor = s.nextMinor) :
    Issues s t :=
  .of_replicasOf hsame (by rwa [List.append_nil]) (onDevices_nil _) hminor

lemma issues_prepared (request : ResourceRequest) (group : ResourceGroup) (s : Cluster) :
    Issues s (prepared request group s) := by
  have hminor : (prepared request group s).nextMinor = s.nextMinor := by
    rw [prepared]
    split
    · rw [updateProperties]
      split <;> rfl
    · rfl
  refine .of_kept (sameOutside_prepared none request group s).resources ?_ hminor
  obtain ⟨r, hr⟩ := exists_find?_prepared request group s
  rw [replicasOf, replicasOf, hr]
  rcases prepared_cases hr with ⟨hnone, _, rfl⟩ | ⟨old, _, hold, rfl⟩
  · rw [hnone]
    exact .refl _
  · rw [hold]
    exact .refl _

lemma issues_defineVolume (name : String) (d : VolumeDefinition) (s : Cluster) :
    Issues s (defineVolume name d s) := by
  have hsame := (sameOutside_defineVolume none name d s).resources
  have hminor : (defineVolume name d s).nextMinor
      = s.nextMinor + ((s.resources.find? name).map (·.placements.length)).getD 0 := rfl
  have hfound := find?_defineVolume name name d s
  rw [if_pos rfl] at hfound
  cases hr : s.resources.find? name with
  | none =>
      rw [hr] at hminor hfound
      refine .of_kept hsame ?_ hminor
      rw [replicasOf, replicasOf, hfound, hr]
      exact .refl _
  | some r =>
      rw [hr] at hminor hfound
      obtain ⟨fresh, hperm, hdevices, hlength⟩ :=
        exists_perm_extendPlacements name d.number s.nextMinor r.placements
      refine .of_replicasOf hsame ?_ hdevices (by rw [hminor, hlength]; rfl)
      rw [replicasOf, replicasOf, hfound, hr]
      exact hperm

lemma issues_placed {count : Nat} {r : ClusterResource} (hr : s.resources.find? name = some r)
    (hempty : r.placements = []) : Issues s (placed name count s) := by
  obtain ⟨hdevices, hlength⟩ :=
    onDevices_newPlacements name r.volumes.keys s.nextMinor (s.nodes.take count)
  have hminor : (placed name count s).nextMinor = s.nextMinor
      + (s.nodes.take count).length * (((s.resources.find? name).map (·.volumes.keys)).getD
        []).length := rfl
  have hfound := find?_placed name name count s
  rw [if_pos rfl, hr, Option.map_some] at hfound
  rw [hr] at hminor
  refine .of_replicasOf (sameOutside_placed none name count s).resources ?_ hdevices
    (by rw [hminor, hlength]; rfl)
  have hnone : replicasOf name s = [] := by
    rw [replicasOf, hr, Option.map_some, ClusterResource.replicas, hempty]
    rfl
  rw [hnone, replicasOf, hfound]
  exact .refl _

/-- **Ensuring a resource issues devices**, however it ends. -/
theorem issues_ensureResource (request : ResourceRequest) (mayExtend : Bool) (s : Cluster) :
    Issues s (ensureResource request mayExtend s).2 := by
  have hdefined : ∀ group missing, Issues s (defined request missing (prepared request group s)) :=
    fun group missing => defined_induction (motive := Issues s)
      (fun _ _ h => h.trans (issues_defineVolume _ _ _)) missing (issues_prepared request group s)
  have houtcome := ensureResource_outcome request mayExtend s
  revert houtcome
  generalize ensureResource request mayExtend s = outcome
  rintro (_ | _ | _ | ⟨-, -, hr, hempty, -⟩)
  · exact .of_same rfl rfl
  · exact hdefined _ _
  · exact hdefined _ _
  · exact (hdefined _ _).trans (issues_placed hr hempty)

/-! ## Steps that keep some replicas -/

/-- **A step keeps some replicas and puts fresh ones on the next devices.** -/
def Turnover (s t : Cluster) : Prop :=
  ∃ kept fresh, t.replicas.Perm (kept ++ fresh) ∧ kept.Subperm s.replicas
    ∧ OnDevices s.nextMinor fresh ∧ t.nextMinor = s.nextMinor + fresh.length

lemma Issues.turnover (h : Issues s t) : Turnover s t := by
  obtain ⟨fresh, hperm, hdevices, hminor⟩ := h
  exact ⟨s.replicas, fresh, hperm, .refl _, hdevices, hminor⟩

lemma Turnover.of_same (hreplicas : t.replicas = s.replicas)
    (hminor : t.nextMinor = s.nextMinor) : Turnover s t :=
  (Issues.of_same hreplicas hminor).turnover

/-- A step on one resource that takes replicas from it takes no others. -/
lemma Turnover.of_replicasOf
    (hsame : ∀ other, other ≠ name → t.resources.find? other = s.resources.find? other)
    (h : (replicasOf name t).Sublist (replicasOf name s)) (hminor : t.nextMinor = s.nextMinor) :
    Turnover s t := by
  refine ⟨replicasOf name t ++ replicas { s with resources := s.resources.erase name }, [], ?_, ?_,
    onDevices_nil _, hminor⟩
  · exact perm_of_replicasOf hsame (by rw [List.append_nil])
  · exact (h.append_right _).subperm.trans (perm_replicas name s).symm.subperm

lemma turnover_deleteResource (name : String) (s : Cluster) :
    Turnover s (deleteResource name s).2 := by
  have hsame := (sameOutside_deleteResource none name s).resources
  rcases deleteResource_cases name s with ⟨-, err, h⟩ | ⟨r, -, -, h⟩
  · rw [h]
    exact .of_same rfl rfl
  · rw [h] at hsame ⊢
    refine .of_replicasOf hsame ?_ rfl
    have hnone : (s.resources.erase name).find? name = none := by
      rw [SortedMap.find?_erase, if_pos rfl]
    rw [replicasOf]
    show (((s.resources.erase name).find? name).map _).getD [] |>.Sublist _
    rw [hnone]
    exact List.nil_sublist _

/-- Removing a volume takes its replicas from every placement. -/
lemma sublist_replicas_removeVolume (number : UInt32) (r : ClusterResource) :
    ((removeVolume number r).replicas name).Sublist (r.replicas name) := by
  rw [ClusterResource.replicas, ClusterResource.replicas, removeVolume]
  induction r.placements with
  | nil => exact List.Sublist.refl _
  | cons p rest ih =>
      rw [List.map_cons, List.flatMap_cons, List.flatMap_cons]
      exact (List.filter_sublist.map _).append ih

lemma turnover_deleteVolume (name : String) (number : UInt32) (s : Cluster) :
    Turnover s (deleteVolume name number s).2 := by
  have hsame := (sameOutside_deleteVolume none name number s).resources
  rcases deleteVolume_cases name number s with ⟨-, err, h⟩ | ⟨r, hr, -, h⟩
  · rw [h]
    exact .of_same rfl rfl
  · rw [h] at hsame ⊢
    refine .of_replicasOf hsame ?_ rfl
    have hfound := find?_changeResource s name name (removeVolume number)
    rw [if_pos rfl, hr] at hfound
    rw [replicasOf, replicasOf, hr]
    show (((s.changeResource name _).resources.find? name).map _).getD [] |>.Sublist _
    rw [hfound]
    exact sublist_replicas_removeVolume number r

/-- **Neither time nor the states of disks change replicas.** -/
lemma timeless_replicas (name : String) :
    ClusterResource.Timeless fun r : ClusterResource => r.replicas name where
  scheduled := fun config other transition r => by
    rw [Cluster.scheduled]
    split <;> rfl
  advance := fun r => by
    have hsettle : ∀ promote (ps : List Placement),
        (settle promote ps).flatMap (·.replicas name) = ps.flatMap (·.replicas name) := by
      intro promote ps
      induction ps generalizing promote with
      | nil => rfl
      | cons p rest ih =>
          rw [settle, List.flatMap_cons, List.flatMap_cons, ih]
          rfl
    rw [Cluster.advance]
    split
    · rfl
    · exact hsettle _ _
    · rfl
  withDiskState := fun node number state r => by
    have hvolumes : ∀ p : Placement,
        (setVolumeState number state p).replicas name = p.replicas name := fun p =>
      ClusterResource.map_changeFirst (f := fun v : PlacedVolume => { v with diskState := state })
        (fun _ => rfl) _ _
    have hplacements := ClusterResource.map_changeFirst hvolumes (·.nodeName = node) r.placements
    rw [ClusterResource.replicas, ClusterResource.replicas, List.flatMap_def, List.flatMap_def]
    exact congrArg List.flatten hplacements

end Cluster

end FailoverStorage

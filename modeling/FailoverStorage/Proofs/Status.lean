import FailoverStorage.Proofs.Cluster.Ensuring

/-!
# What placements show of a resource

The status of an endpoint is folded from the placements of its resource.

**Volumes.**  The volumes listed are the data volumes that occur in some placement, each once and in
ascending order (`Status.mem_volumeNumbers`, `Status.ascending_volumeNumbers`), whatever the order
in which the nodes report them.

**Whole resources** (`Status.Whole`) are on each of their nodes with a disk and with every volume up
to date.  A new resource is whole, and promoting it keeps it so.  The status of a whole resource
that was promoted is complete: started, on the first node, with every volume well
(`Status.ofPlacements_settle_of_whole`).
-/

namespace FailoverStorage

namespace Status

variable {ps : List Placement} {numbers : List UInt32} {nodes : List String}

/-! ## The service -/

/-- An endpoint is started exactly where its resource is in use. -/
lemma service_ofPlacements_eq_started_iff (attached : Bool) (definition : ResourceDefinition)
    (group : Option ResourceGroup) :
    (ofPlacements attached (some definition) group ps).service = .started
      ↔ ps.any (·.isInUse) = true := by
  show serviceState attached ps = .started ↔ _
  rw [serviceState]
  cases ps.any (·.isInUse) with
  | true => simp
  | false =>
      rw [if_neg Bool.false_ne_true]
      split
      · simp
      · cases attached <;> simp

/-! ## The volumes -/

lemma mem_insertNumber {n m : UInt32} {l : List UInt32} :
    m ∈ insertNumber n l ↔ m = n ∨ m ∈ l := by
  induction l with
  | nil => simp [insertNumber]
  | cons k rest ih =>
      rw [insertNumber]
      split
      · simp
      split
      · rename_i heq
        simp [heq]
      · simp [ih, or_left_comm]

lemma ascending_insertNumber {n : UInt32} {l : List UInt32} (h : Ascending id l) :
    Ascending id (insertNumber n l) := by
  induction l with
  | nil => exact List.pairwise_singleton _ _
  | cons k rest ih =>
      obtain ⟨hk, hrest⟩ := List.pairwise_cons.1 h
      rw [insertNumber]
      split
      · rename_i hlt
        refine List.pairwise_cons.2 ⟨fun m hm => ?_, h⟩
        rcases List.mem_cons.1 hm with rfl | hm
        · exact hlt
        · exact UInt32.lt_trans hlt (hk m hm)
      split
      · exact h
      · rename_i hnotLt hne
        have hgt : k < n := UInt32.lt_of_le_of_ne (UInt32.not_lt.1 hnotLt) fun heq => hne heq.symm
        refine List.pairwise_cons.2 ⟨fun m hm => ?_, ih hrest⟩
        rcases mem_insertNumber.1 hm with rfl | hm
        · exact hgt
        · exact hk m hm

/-- **The volumes listed** are the data volumes that occur in some placement. -/
lemma mem_volumeNumbers {n : UInt32} : n ∈ volumeNumbers ps
    ↔ (∃ p ∈ ps, n ∈ p.volumes.map (·.number)) ∧ n ≠ Volume.privateNumber := by
  have hfold : ∀ l : List UInt32, n ∈ l.foldr insertNumber [] ↔ n ∈ l := by
    intro l
    induction l with
    | nil => rfl
    | cons m rest ih => rw [List.foldr_cons, mem_insertNumber, ih, List.mem_cons]
  rw [volumeNumbers, hfold, List.mem_filter, List.mem_flatMap, decide_eq_true_eq]

/-- They are listed in ascending order. -/
lemma ascending_volumeNumbers (ps : List Placement) : Ascending id (volumeNumbers ps) := by
  have hfold : ∀ l : List UInt32, Ascending id (l.foldr insertNumber []) := by
    intro l
    induction l with
    | nil => exact List.Pairwise.nil
    | cons m rest ih => exact ascending_insertNumber ih
  exact hfold _

/-! ## Whole resources -/

/-- **Placements that hold a whole resource**: one on each node, with a disk and with all volumes up
to date. -/
structure Whole (numbers : List UInt32) (nodes : List String) (ps : List Placement) : Prop where
  nodes : ps.map (·.nodeName) = nodes
  disks : ∀ p ∈ ps, p.diskless = false
  numbers : ∀ p ∈ ps, p.volumes.map (·.number) = numbers
  upToDate : ∀ p ∈ ps, ∀ v ∈ p.volumes, v.diskState = .upToDate

lemma upToDate_newVolumes {minor : Nat} {v : PlacedVolume}
    (hv : v ∈ Cluster.newVolumes minor numbers) : v.diskState = .upToDate := by
  induction numbers generalizing minor with
  | nil => cases hv
  | cons number rest ih =>
      rcases List.mem_cons.1 hv with rfl | hv
      · rfl
      · exact ih hv

/-- **A new resource is whole.** -/
lemma whole_newPlacements (name : String) (numbers : List UInt32) (minor : Nat)
    (nodes : List String) :
    Whole numbers nodes (Cluster.newPlacements name numbers minor nodes) where
  nodes := by
    induction nodes generalizing minor with
    | nil => rfl
    | cons node rest ih => rw [Cluster.newPlacements, List.map_cons, ih]
  disks p hp := by
    induction nodes generalizing minor with
    | nil => cases hp
    | cons node rest ih =>
        rcases List.mem_cons.1 hp with rfl | hp
        · rfl
        · exact ih _ hp
  numbers _ hp := ClusterResource.map_number_of_mem_newPlacements hp
  upToDate p hp v hv := by
    induction nodes generalizing minor with
    | nil => cases hp
    | cons node rest ih =>
        rcases List.mem_cons.1 hp with rfl | hp
        · exact upToDate_newVolumes hv
        · exact ih _ hp

/-- Promoting and demoting change nothing but where a resource is in use. -/
lemma exists_of_mem_settle {promote : Bool} {q : Placement} (hq : q ∈ Cluster.settle promote ps) :
    ∃ p ∈ ps, ∃ inUse : Bool, q = { p with inUse := some inUse } := by
  induction ps generalizing promote with
  | nil => cases hq
  | cons p rest ih =>
      rcases List.mem_cons.1 hq with rfl | hq
      · exact ⟨p, List.mem_cons_self, _, rfl⟩
      · obtain ⟨p', hp', h⟩ := ih hq
        exact ⟨p', List.mem_cons_of_mem _ hp', h⟩

lemma map_nodeName_settle (promote : Bool) (ps : List Placement) :
    (Cluster.settle promote ps).map (·.nodeName) = ps.map (·.nodeName) := by
  induction ps generalizing promote with
  | nil => rfl
  | cons p rest ih => rw [Cluster.settle, List.map_cons, ih, List.map_cons]

lemma Whole.settle (h : Whole numbers nodes ps) (promote : Bool) :
    Whole numbers nodes (Cluster.settle promote ps) where
  nodes := (map_nodeName_settle promote ps).trans h.nodes
  disks q hq := by
    obtain ⟨p, hp, _, rfl⟩ := exists_of_mem_settle hq
    exact h.disks p hp
  numbers q hq := by
    obtain ⟨p, hp, _, rfl⟩ := exists_of_mem_settle hq
    exact h.numbers p hp
  upToDate q hq := by
    obtain ⟨p, hp, _, rfl⟩ := exists_of_mem_settle hq
    exact h.upToDate p hp

/-- All volumes of a whole resource are listed. -/
lemma Whole.volumeNumbers_eq (h : Whole numbers nodes ps) (hnodes : nodes ≠ [])
    (hnumbers : Ascending id numbers) :
    volumeNumbers ps = numbers.filter (· ≠ Volume.privateNumber) := by
  refine (ascending_volumeNumbers ps).eq_of_mem_iff (hnumbers.filter _) fun n => ?_
  rw [mem_volumeNumbers, List.mem_filter, decide_eq_true_eq]
  refine and_congr_left fun _ => ⟨fun ⟨p, hp, hn⟩ => h.numbers p hp ▸ hn, fun hn => ?_⟩
  obtain ⟨p, hp⟩ := List.exists_mem_of_ne_nil ps fun hnil => hnodes (by rw [← h.nodes, hnil]; rfl)
  exact ⟨p, hp, h.numbers p hp ▸ hn⟩

/-- Every node reports every volume of a whole resource up to date. -/
lemma Whole.diskStates_eq (h : Whole numbers nodes ps) {number : UInt32}
    (hnumber : number ∈ numbers) :
    diskStates number ps = List.replicate ps.length .upToDate := by
  have hdisks : ps.filter (!·.diskless) = ps :=
    List.filter_eq_self.2 fun p hp => by rw [h.disks p hp]; rfl
  have hstate : ∀ p ∈ ps,
      (p.volumes.find? (·.number = number)).map (·.diskState) = some .upToDate := by
    intro p hp
    have hmem : number ∈ p.volumes.map (·.number) := h.numbers p hp ▸ hnumber
    obtain ⟨v, hv, hnum⟩ := List.mem_map.1 hmem
    have hsome : (p.volumes.find? (·.number = number)).isSome :=
      List.find?_isSome.2 ⟨v, hv, decide_eq_true hnum⟩
    obtain ⟨v', hv'⟩ := Option.isSome_iff_exists.1 hsome
    rw [hv', Option.map_some, h.upToDate p hp v' (List.mem_of_find?_eq_some hv')]
  rw [diskStates, hdisks]
  clear h hdisks
  induction ps with
  | nil => rfl
  | cons p rest ih =>
      rw [List.filterMap_cons, hstate p List.mem_cons_self,
        ih fun q hq => hstate q (List.mem_cons_of_mem _ hq)]
      rfl

/-- **Every volume of a whole resource is well** if the resource is on as many nodes as its group
asks for. -/
lemma Whole.volumeHealth_eq_ok (h : Whole numbers nodes ps) (hnodes : nodes ≠ [])
    {group : ResourceGroup} (hreplicas : group.replicas ≤ nodes.length) {number : UInt32}
    (hnumber : number ∈ numbers) : volumeHealth number (some group) ps = .ok := by
  have hlength : ps.length = nodes.length := by rw [← h.nodes, List.length_map]
  have hpositive : 0 < nodes.length := List.length_pos_iff.2 hnodes
  have hknown : (List.replicate ps.length DiskState.upToDate).all (· = .unknown) = false := by
    rw [List.all_replicate, if_neg (by omega)]
    rfl
  have hcount : (List.replicate ps.length DiskState.upToDate).countP (· = .upToDate)
      = ps.length := by
    rw [List.countP_replicate, if_pos (decide_eq_true rfl)]
  rw [volumeHealth]
  simp only [h.diskStates_eq hnumber, hknown, hcount, Bool.false_eq_true, if_false]
  rw [if_pos (hlength ▸ hreplicas)]

/-! ## Promoted resources -/

/-- A resource is promoted on the first node with a disk. -/
lemma find?_isInUse_settle_true (ps : List Placement) :
    ((Cluster.settle true ps).find? (·.isInUse)).map (·.nodeName)
      = (ps.find? (!·.diskless)).map (·.nodeName) := by
  induction ps with
  | nil => rfl
  | cons p rest ih =>
      rw [Cluster.settle, List.find?_cons, List.find?_cons]
      cases hdiskless : p.diskless with
      | false => rfl
      | true => exact ih

lemma Whole.find?_disk (h : Whole numbers nodes ps) :
    (ps.find? (!·.diskless)).map (·.nodeName) = nodes.head? := by
  rw [← h.nodes]
  cases ps with
  | nil => rfl
  | cons p rest =>
      rw [List.find?_cons_of_pos (by rw [h.disks p List.mem_cons_self]; rfl)]
      rfl

/-- **The status of a whole resource that was promoted.** -/
theorem ofPlacements_settle_of_whole (h : Whole numbers nodes ps) (hnodes : nodes ≠ [])
    (hnumbers : Ascending id numbers) {group : ResourceGroup}
    (hreplicas : group.replicas ≤ nodes.length) (attached : Bool)
    (definition : ResourceDefinition) :
    ofPlacements attached (some definition) (some group) (Cluster.settle true ps)
      = { service := .started
          primary := nodes.head?
          nodes
          volumes := (numbers.filter (· ≠ Volume.privateNumber)).map
            fun number => { number, health := .ok } } := by
  have hwhole := h.settle true
  have hdisk : ps.any (!·.diskless) = true := by
    obtain ⟨p, hp⟩ :=
      List.exists_mem_of_ne_nil ps fun hnil => hnodes (by rw [← h.nodes, hnil]; rfl)
    exact List.any_eq_true.2 ⟨p, hp, by rw [h.disks p hp]; rfl⟩
  have hvolumes : ((numbers.filter (· ≠ Volume.privateNumber)).map fun n =>
      ({ number := n, health := volumeHealth n (some group) (Cluster.settle true ps) }
        : VolumeStatus))
      = (numbers.filter (· ≠ Volume.privateNumber)).map fun number => { number, health := .ok } :=
    List.map_congr_left fun n hn => by
      rw [hwhole.volumeHealth_eq_ok hnodes hreplicas (List.mem_of_mem_filter hn)]
  rw [ofPlacements, hwhole.volumeNumbers_eq hnodes hnumbers, hvolumes, hwhole.nodes,
    find?_isInUse_settle_true, h.find?_disk, serviceState,
    if_pos (Cluster.any_isInUse_settle_true hdisk)]
  rfl

end Status

end FailoverStorage

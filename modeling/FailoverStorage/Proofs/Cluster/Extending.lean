import FailoverStorage.Proofs.Cluster.Ensuring

/-!
# One volume more

A request that names a volume more than a resource has, and agrees with the resource in everything
else, adds this volume and nothing else: one definition, and one entry in each placement
(`Cluster.Gains`).  Removing the volume undoes that, down to the order in which placements list
their volumes (`ClusterResource.removeVolume_withVolume`).

A resource without placements is placed on this occasion.  If there are too few nodes for its group,
the request fails, and the volume stays defined (`Cluster.ensureResource_extension_unplaced`).
-/

namespace FailoverStorage

open FailoverStorage.Action

/-! ## Placements -/

/-- **A placement gains a volume**: one entry, and nothing else changes. -/
def Placement.Gains (number : UInt32) (before after : Placement) : Prop :=
  after = { before with volumes := after.volumes }
    ∧ ∃ entry : PlacedVolume, entry.number = number
      ∧ after.volumes.Perm (entry :: before.volumes)

namespace ClusterResource

variable {r : ClusterResource} {number : UInt32}

lemma gains_extendPlacements (number : UInt32) (minor : Nat) (ps : List Placement) :
    List.Forall₂ (Placement.Gains number) ps (Cluster.extendPlacements number minor ps) := by
  induction ps generalizing minor with
  | nil => exact .nil
  | cons p rest ih =>
      refine .cons ⟨rfl, Cluster.newVolume number minor, rfl, ?_⟩ (ih _)
      exact (sortOn_perm _ _).trans (List.perm_append_singleton _ _)

/-- Placements lose what they gained. -/
lemma map_withoutVolume_extendPlacements {minor : Nat} {ps : List Placement}
    (h : ∀ p ∈ ps, Ascending PlacedVolume.number p.volumes ∧ number ∉ p.volumes.map (·.number)) :
    (Cluster.extendPlacements number minor ps).map
      (fun p => { p with volumes := p.volumes.filter (·.number ≠ number) }) = ps := by
  induction ps generalizing minor with
  | nil => rfl
  | cons p rest ih =>
      obtain ⟨hascending, hnew⟩ := h p List.mem_cons_self
      have hvolumes := filter_sortOn_append PlacedVolume.number
        (a := Cluster.newVolume number minor) hascending hnew
      rw [Cluster.extendPlacements, List.map_cons, ih fun q hq => h q (List.mem_cons_of_mem _ hq)]
      exact congrArg (fun volumes => { p with volumes } :: rest) hvolumes

/-- **Removing a volume that was added leaves the resource as it was.** -/
lemma removeVolume_withVolume (h : r.Coherent) {d : VolumeDefinition}
    (hnew : r.volumes.find? d.number = none) (minor : Nat) :
    Cluster.removeVolume d.number (Cluster.withVolume d minor r) = r := by
  have hvolumes : (r.volumes.insert d.number d).erase d.number = r.volumes := by
    refine SortedMap.ext_find? fun number => ?_
    rw [SortedMap.find?_erase, SortedMap.find?_insert]
    by_cases hnumber : number = d.number
    · rw [if_pos hnumber, hnumber, hnew]
    · rw [if_neg hnumber, if_neg hnumber]
  have hplacements : (Cluster.extendPlacements d.number minor r.placements).map
      (fun p => { p with volumes := p.volumes.filter (·.number ≠ d.number) }) = r.placements :=
    map_withoutVolume_extendPlacements fun p hp => ?_
  · rw [Cluster.removeVolume, Cluster.withVolume]
    simp only
    rw [hvolumes, hplacements]
  · have hnumbers := h.placed p hp
    refine ⟨List.pairwise_map.1 (hnumbers.symm ▸ SortedMap.ascending_keys r.volumes), ?_⟩
    rw [hnumbers, SortedMap.mem_keys_iff, hnew]
    decide

end ClusterResource

/-! ## Requests -/

namespace ResourceRequest

/-- With extending, what is missing is what is not there, if all else has the requested sizes. -/
lemma missingAmong_true {name : String} {existing : List VolumeDefinition} {volumes : List Volume}
    (hsizes : ∀ v ∈ volumes, ∀ d, existing.find? (·.number = v.number) = some d →
      d.sizeKib = v.sizeKib) :
    missingAmong name existing true volumes
      = .ok (volumes.filter fun v => (existing.find? (·.number = v.number)).isNone) :=
  missingAmong_eq_ok_iff.2 ⟨rfl, hsizes, nofun⟩

/-- **A request extends a resource by one volume** if nothing else is missing and every property is
recorded. -/
structure Extends (request : ResourceRequest) (v : Volume) (r : ClusterResource) : Prop where
  missing : request.missingVolumes r.volumes.values true = .ok [v]
  recorded : ∀ key value, request.properties.find? key = some value →
    r.definition.properties.find? key = some value

/-- Properties that are recorded are not changed. -/
lemma isEmpty_changedProperties {request : ResourceRequest} {current : SortedMap String String}
    (h : ∀ key value, request.properties.find? key = some value →
      current.find? key = some value) : (request.changedProperties current).isEmpty = true := by
  refine List.isEmpty_iff.2 (List.filter_eq_nil_iff.2 fun e he => ?_)
  simpa using h e.1 e.2 (SortedMap.find?_eq_some_iff.2 he)

end ResourceRequest

/-! ## Ensuring -/

namespace Cluster

/-- **The storage of a cluster gains a volume**: a resource gains its definition and an entry in
each placement, and nothing else changes. -/
structure Gains (name : String) (d : VolumeDefinition) (s t : Cluster) : Prop where
  others : ∀ other, other ≠ name → t.resources.find? other = s.resources.find? other
  resource : ∃ r r', s.resources.find? name = some r ∧ t.resources.find? name = some r'
    ∧ r'.definition = r.definition ∧ r'.transition = r.transition
    ∧ r'.volumes = r.volumes.insert d.number d
    ∧ List.Forall₂ (Placement.Gains d.number) r.placements r'.placements

variable {request : ResourceRequest} {group : ResourceGroup} {s t : Cluster} {r : ClusterResource}
  {v : Volume} {name : String} {d : VolumeDefinition} {minor : Nat}

lemma gains_of_withVolume
    (hothers : ∀ other, other ≠ name → t.resources.find? other = s.resources.find? other)
    (hr : s.resources.find? name = some r)
    (ht : t.resources.find? name = some (withVolume d minor r)) : Gains name d s t :=
  ⟨hothers, r, _, hr, ht, rfl, rfl, rfl, ClusterResource.gains_extendPlacements _ _ _⟩

/-- Placing fails if there are too few nodes. -/
lemma place_eq_error (name : String) {count : Nat} (h : s.nodes.length < count) :
    ∃ err, place name count s = (.error err, s) := by
  rw [place, bind_apply_ok (get_apply s)]
  simp only [if_pos h]
  exact ⟨_, rfl⟩

/-- The last steps of ensuring a resource that is not placed, with too few nodes. -/
lemma finish_eq_error {missing : List Volume}
    (hr : (defined request missing s).resources.find? request.name = some r)
    (hempty : r.placements = [])
    (hnodes : (defined request missing s).nodes.length < group.replicas) :
    ∃ err, finish request group missing s = (.error err, defined request missing s) := by
  obtain ⟨err, hplace⟩ := place_eq_error request.name hnodes
  rw [finish, bind_apply_ok (modify_apply _ s), bind_apply_ok (get_apply _)]
  simp only [hr, Option.map_some, Option.getD_some, hempty, List.isEmpty_nil, if_true]
  exact ⟨err, bind_apply_error hplace _⟩

/-- Recorded properties are not written again. -/
lemma updateProperties_of_recorded
    (h : ∀ key value, request.properties.find? key = some value →
      r.definition.properties.find? key = some value) : updateProperties request r s = s := by
  rw [updateProperties, ResourceRequest.isEmpty_changedProperties h]
  rfl

section

variable (hgroup : s.groups.find? request.resourceGroup = some group)
  (hr : s.resources.find? request.name = some r) (h : request.Extends v r)

include hgroup hr h

lemma ensureResource_of_extends :
    ensureResource request true s = finish request group [v] s := by
  have hmissing : Missing request true s [v] := by
    rw [Missing, hr]
    exact h.missing
  rw [ensureResource_eq_finish hgroup hmissing, prepared, hr]
  simp only [updateProperties_of_recorded h.recorded]

/-- **Extending a resource that is placed**, or that its group places nowhere, adds the volume. -/
theorem exists_ensureResource_extension (hplaced : r.placements ≠ [] ∨ group.replicas = 0) :
    ∃ t, ensureResource request true s
        = (.ok
            { definition := r.definition, group
              placements :=
                (withVolume (request.volumeDefinition v) s.nextMinor r).placements }, t)
      ∧ t.resources.find? request.name
        = some (withVolume (request.volumeDefinition v) s.nextMinor r)
      ∧ SameOutside none request.name s t := by
  set r' := withVolume (request.volumeDefinition v) s.nextMinor r
  have hr' : (defined request [v] s).resources.find? request.name = some r' :=
    (find?_defineVolume _ _ _ _).trans ((if_pos rfl).trans (congrArg (Option.map _) hr))
  have hsame := sameOutside_defined none request [v] s
  have hempty : r'.placements = [] ↔ r.placements = [] := placements_withVolume_eq_nil_iff _ _ r
  rw [ensureResource_of_extends hgroup hr h]
  by_cases hnil : r.placements = []
  · have hzero := hplaced.resolve_left (not_not_intro hnil)
    have hnodes : group.replicas ≤ (defined request [v] s).nodes.length := hzero ▸ Nat.zero_le _
    have hfinish := finish_eq_ok hr' (hempty.2 hnil) hnodes
    have hnone : newPlacements request.name r'.volumes.keys (defined request [v] s).nextMinor
        ((defined request [v] s).nodes.take group.replicas) = r'.placements := by
      rw [hzero, hempty.2 hnil]
      rfl
    rw [hnone] at hfinish
    refine ⟨_, hfinish, ?_, hsame.trans (sameOutside_placed none _ _ _)⟩
    rw [find?_placed, if_pos rfl, hr', Option.map_some, onNodes, hnone]
  · rcases @finish_cases request group [v] s r' hr' with ⟨-, hfinish⟩ | ⟨hnil', -⟩ | ⟨_, hnil', -⟩
    · exact ⟨_, hfinish, hr', hsame⟩
    · exact absurd (hempty.1 hnil') hnil
    · exact absurd (hempty.1 hnil') hnil

/-- **Extending a resource for which there are too few nodes** fails when the volume is defined. -/
theorem ensureResource_extension_unplaced (hempty : r.placements = [])
    (hnodes : s.nodes.length < group.replicas) :
    ∃ err t, ensureResource request true s = (.error err, t)
      ∧ t.resources.find? request.name
        = some (withVolume (request.volumeDefinition v) s.nextMinor r)
      ∧ SameOutside none request.name s t := by
  have hr' : (defined request [v] s).resources.find? request.name
      = some (withVolume (request.volumeDefinition v) s.nextMinor r) :=
    (find?_defineVolume _ _ _ _).trans ((if_pos rfl).trans (congrArg (Option.map _) hr))
  have hsame := sameOutside_defined none request [v] s
  obtain ⟨err, hfinish⟩ := finish_eq_error hr'
    ((placements_withVolume_eq_nil_iff _ _ r).2 hempty) (hsame.nodes.symm ▸ hnodes)
  exact ⟨err, _, (ensureResource_of_extends hgroup hr h).trans hfinish, hr', hsame⟩

end

end Cluster

end FailoverStorage

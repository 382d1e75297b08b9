import FailoverStorage.Proofs.Cluster.Extending
import FailoverStorage.Proofs.Cluster.Histories

/-!
# Completing a resource

A request that succeeds has completed its resource: whatever was missing of it is there, and
whatever was there still is, on the same devices (`ClusterResource.Completed`).  What it found may
be of any kind, complete, lacking volumes or properties, or left behind without placements when an
earlier request failed.

So nothing is missing the next time.  The same request returns the same deployment and leaves the
cluster as it is, counters included (`Cluster.ensureResource_completes`), unless the group asks for
no replica at all; then the resource is placed nowhere again, and that counts as a change.
-/

namespace FailoverStorage

open FailoverStorage.Action

/-! ## Clusters that have served -/

/-- **A cluster that arises** from a fresh one by calls to its stores, in any order and however they
end, and by groups that are added in between. -/
inductive Cluster.Arises : Cluster → Prop
  | fresh (nodes : List String) (groups : SortedMap String ResourceGroup) (transitionPolls : Nat) :
      Arises { nodes, groups, transitionPolls }
  | call {c : Cluster} (h : Arises c) (call : StoreCall) : Arises (call.after c)
  | group {c : Cluster} (h : Arises c) (group : ResourceGroup) : Arises (c.addGroup group)

/-- What lasts holds of every resource of a cluster that arises. -/
lemma Cluster.Arises.all {Q : ClusterResource → Prop} (hQ : ClusterResource.Lasts Q) {c : Cluster}
    (h : c.Arises) : c.All Q := by
  induction h with
  | fresh => exact fun _ _ hr => nomatch hr
  | call _ call ih => exact StoreCall.all_after hQ call ih
  | group _ _ ih => exact ih

/-! ## Placements -/

namespace Placement

/-- **A placement grows**: it keeps its volumes, with their devices and states, and everything else,
whether it is in use included; it may list further volumes. -/
def Grows (before after : Placement) : Prop :=
  after = { before with volumes := after.volumes }
    ∧ ∃ added, after.volumes.Perm (before.volumes ++ added)

lemma Grows.refl (p : Placement) : p.Grows p := ⟨rfl, [], by rw [List.append_nil]⟩

lemma Grows.trans {p q r : Placement} (h : p.Grows q) (h' : q.Grows r) : p.Grows r := by
  obtain ⟨hq, added, hperm⟩ := h
  obtain ⟨hr, added', hperm'⟩ := h'
  refine ⟨by rw [hr, hq], added ++ added', hperm'.trans ?_⟩
  rw [← List.append_assoc]
  exact hperm.append_right _

lemma grows_extendPlacements {ps qs : List Placement} (h : List.Forall₂ Grows ps qs)
    (number : UInt32) (minor : Nat) :
    List.Forall₂ Grows ps (Cluster.extendPlacements number minor qs) := by
  induction h generalizing minor with
  | nil => exact .nil
  | cons hp _ ih =>
      exact .cons (hp.trans ⟨rfl, [Cluster.newVolume number minor], sortOn_perm _ _⟩) (ih _)

end Placement

/-! ## Completed resources -/

namespace ResourceRequest

/-- Where the changed properties win, all requested ones do. -/
lemma override_changedProperties (request : ResourceRequest) (current : SortedMap String String) :
    current.override (request.changedProperties current)
      = current.override request.properties := by
  refine SortedMap.ext_find? fun key => ?_
  rw [SortedMap.find?_override, SortedMap.find?_override, changedProperties,
    SortedMap.find?_filter]
  cases request.properties.find? key with
  | none => rfl
  | some value => by_cases h : current.find? key = some value <;> simp [h, Option.filter]

end ResourceRequest

/-- **A resource was completed** towards a request: what was missing is there, what was there still
is, and there is nothing else. -/
structure ClusterResource.Completed (request : ResourceRequest) (group : ResourceGroup)
    (before : Option ClusterResource) (r : ClusterResource) : Prop where
  /-- Each requested volume is defined with the requested size. -/
  requested : ∀ v ∈ request.volumes, ∃ d, r.volumes.find? v.number = some d
    ∧ d.sizeKib = v.sizeKib
  /-- Each volume that was defined has the definition that it had. -/
  kept : ∀ old, before = some old → ∀ number d, old.volumes.find? number = some d →
    r.volumes.find? number = some d
  /-- A volume that was not defined has the definition that is requested. -/
  added : ∀ number d, r.volumes.find? number = some d →
    (∃ old, before = some old ∧ old.volumes.find? number = some d)
      ∨ ∃ v ∈ request.volumes, v.number = number ∧ d = request.volumeDefinition v
  /-- A new definition is the requested one. -/
  created : before = none → r.definition =
    { name := request.name, resourceGroup := group.name, properties := request.properties }
  /-- A definition that was there takes on the requested properties and keeps everything else, the
  group that it is of included. -/
  merged : ∀ old, before = some old → r.definition =
    { old.definition with properties := old.definition.properties.override request.properties }
  /-- Placements that were there have grown at most. -/
  grown : ∀ old, before = some old → old.placements = []
    ∨ List.Forall₂ Placement.Grows old.placements r.placements

namespace Cluster

variable {request : ResourceRequest} {mayExtend : Bool} {group : ResourceGroup}
  {missing : List Volume} {s t : Cluster} {r : ClusterResource} {deployment : Deployment}

namespace Missing

/-- What is there and requested has the requested size. -/
lemma sizes (h : Missing request mayExtend s missing) (hs : s.All ClusterResource.Numbered) :
    ∀ v ∈ request.volumes, ∀ d, (existingVolumes request s).find? v.number = some d →
      d.sizeKib = v.sizeKib := by
  intro v hv d hd
  rw [Missing] at h
  cases hr : s.resources.find? request.name with
  | none =>
      rw [existingVolumes, hr] at hd
      cases hd
  | some r =>
      simp only [hr] at h
      rw [existingVolumes, hr, Option.map_some, Option.getD_some,
        ← (hs request.name r hr).find?_values] at hd
      exact (ResourceRequest.missingAmong_eq_ok_iff.1 h).2.1 v hv d hd

section

variable {volumes : SortedMap UInt32 VolumeDefinition} {number : UInt32} {d : VolumeDefinition}
  (h : Missing request mayExtend s missing) (hs : s.All ClusterResource.Numbered)
  (hvolumes : ∀ number, volumes.find? number
    = ((missing.find? (·.number = number)).map request.volumeDefinition).or
      ((existingVolumes request s).find? number))

include h hs hvolumes

/-- With what is missing, each requested volume is there with the requested size. -/
lemma exists_requested (hdistinct : (request.volumes.map (·.number)).Nodup) {v : Volume}
    (hv : v ∈ request.volumes) :
    ∃ d, volumes.find? v.number = some d ∧ d.sizeKib = v.sizeKib := by
  obtain ⟨hsub, -, hall⟩ := h.spec fun r hr => (hs request.name r hr).find?_values
  rw [hvolumes]
  cases hfind : missing.find? (·.number = v.number) with
  | some w =>
      have hnumber : w.number = v.number := by simpa using List.find?_some hfind
      have hw := hsub.subset (List.mem_of_find?_eq_some hfind)
      obtain rfl := List.inj_on_of_nodup_map hdistinct hw hv hnumber
      exact ⟨_, rfl, rfl⟩
  | none =>
      have hnot : v ∉ missing := fun hmem => by
        simpa using List.find?_eq_none.1 hfind v hmem
      obtain ⟨d, hd⟩ := Option.isSome_iff_exists.1 ((hall v hv).resolve_left hnot)
      exact ⟨d, hd, h.sizes hs v hv d hd⟩

/-- What is missing does not replace what is there. -/
lemma find?_of_existing (hd : (existingVolumes request s).find? number = some d) :
    volumes.find? number = some d := by
  obtain ⟨-, hnew, -⟩ := h.spec fun r hr => (hs request.name r hr).find?_values
  have hnone : missing.find? (·.number = number) = none := by
    refine List.find?_eq_none.2 fun w hw => ?_
    simp only [decide_eq_true_eq]
    rintro rfl
    rw [hnew w hw] at hd
    cases hd
  rw [hvolumes, hnone, hd]
  rfl

/-- What was not there is requested. -/
lemma existing_or_requested (hd : volumes.find? number = some d) :
    (∃ old, s.resources.find? request.name = some old ∧ old.volumes.find? number = some d)
      ∨ ∃ v ∈ request.volumes, v.number = number ∧ d = request.volumeDefinition v := by
  obtain ⟨hsub, -, -⟩ := h.spec fun r hr => (hs request.name r hr).find?_values
  rw [hvolumes, Option.or_eq_some_iff] at hd
  rcases hd with hd | ⟨-, hd⟩
  · obtain ⟨v, hfind, rfl⟩ := Option.map_eq_some_iff.1 hd
    exact .inr ⟨v, hsub.subset (List.mem_of_find?_eq_some hfind),
      by simpa using List.find?_some hfind, rfl⟩
  · rw [existingVolumes] at hd
    cases hold : s.resources.find? request.name with
    | none =>
        rw [hold] at hd
        cases hd
    | some old =>
        rw [hold] at hd
        exact .inl ⟨old, rfl, hd⟩

end

end Missing

/-- **Defining what is missing completes a resource**, but for placing one that is placed
nowhere. -/
lemma exists_completed_defined (hs : s.All ClusterResource.Numbered)
    (hdistinct : (request.volumes.map (·.number)).Nodup)
    (hmissing : Missing request mayExtend s missing) (group : ResourceGroup) :
    ∃ r, (defined request missing (prepared request group s)).resources.find? request.name = some r
      ∧ r.Completed request group (s.resources.find? request.name)
      ∧ (r.placements = [] ↔ existingPlacements request s = []) := by
  obtain ⟨hsub, hnew, -⟩ := hmissing.spec fun r hr => (hs request.name r hr).find?_values
  obtain ⟨r₀, hr₀, hdefinition₀, hvolumes₀, hplacements₀⟩ :=
    find?_prepared_definition request group s
  obtain ⟨r, hr, hgrown, hdefinition, hempty, hvolumes⟩ :=
    find?_defined (Q := fun r =>
        List.Forall₂ Placement.Grows (existingPlacements request s) r.placements)
      (hdistinct.sublist (hsub.map _))
      (fun v _ _ minor h _ => Placement.grows_extendPlacements h v.number minor) hr₀
      (hplacements₀ ▸ List.forall₂_same.2 fun p _ => .refl p)
      fun v hv => hvolumes₀ ▸ hnew v hv
  rw [hvolumes₀] at hvolumes
  rw [hdefinition₀] at hdefinition
  refine ⟨r, hr, ?_, hplacements₀ ▸ hempty⟩
  exact
    { requested := fun v hv => hmissing.exists_requested hs hvolumes hdistinct hv
      kept := fun old hold number d hd => hmissing.find?_of_existing hs hvolumes (by
        rw [existingVolumes, hold]
        exact hd)
      added := fun number d hd => hmissing.existing_or_requested hs hvolumes hd
      created := fun hnone => by
        rw [hdefinition, hnone]
        rfl
      merged := fun old hold => by
        rw [hdefinition, hold, Option.map_some, ResourceRequest.definitionFrom,
          ResourceRequest.override_changedProperties]
      grown := fun old hold => .inr (by
        rw [existingPlacements, hold] at hgrown
        exact hgrown) }

/-- **A resource is completed** by a request that succeeds, and it is placed if its group asks for
replicas. -/
lemma exists_completed (hs : s.All ClusterResource.Numbered)
    (hdistinct : (request.volumes.map (·.number)).Nodup)
    (h : ensureResource request mayExtend s = (.ok deployment, t)) :
    ∃ r, s.groups.find? request.resourceGroup = some deployment.group
      ∧ t.resources.find? request.name = some r
      ∧ deployment
        = { definition := r.definition, group := deployment.group, placements := r.placements }
      ∧ r.Completed request deployment.group (s.resources.find? request.name)
      ∧ (0 < deployment.group.replicas → r.placements ≠ []) := by
  have houtcome := ensureResource_outcome request mayExtend s
  rw [h] at houtcome
  cases houtcome with
  | @extended group missing r hgroup hmissing hr hplaced =>
      obtain ⟨r', hr', hcompleted, -⟩ := exists_completed_defined hs hdistinct hmissing group
      cases hr.symm.trans hr'
      exact ⟨r, hgroup, hr, rfl, hcompleted, fun _ => hplaced⟩
  | @placed group missing r r' hgroup hmissing hr hempty hr' =>
      obtain ⟨r'', hr'', hcompleted, hplacements⟩ :=
        exists_completed_defined hs hdistinct hmissing group
      cases hr.symm.trans hr''
      have hnodes := hr'
      rw [find?_placed, if_pos rfl, hr] at hnodes
      cases hnodes
      refine ⟨_, hgroup, hr', rfl, { hcompleted with grown := fun old hold => .inl ?_ },
        fun hreplicas hnil => ?_⟩
      · have hnone := hplacements.1 hempty
        rwa [existingPlacements, hold] at hnone
      · -- on a cluster without nodes placing would have failed
        have hnone := newPlacements_eq_nil_iff.1 hnil
        have htoo : (defined request missing (prepared request group s)).nodes.length
            < group.replicas := by
          rcases List.take_eq_nil_iff.1 hnone with hzero | hnil
          · exact absurd hzero hreplicas.ne'
          · rw [hnil]
            exact hreplicas
        obtain ⟨err, hfail⟩ := finish_eq_error hr hempty htoo
        rw [ensureResource_eq_finish hgroup hmissing, hfail] at h
        cases h

/-- **Nothing is left to do for a complete resource**: it is returned as it is. -/
lemma ensureResource_of_complete (hgroup : s.groups.find? request.resourceGroup = some group)
    (hr : s.resources.find? request.name = some r) (hmet : request.MetBy r.volumes.values)
    (hrecorded : ∀ key value, request.properties.find? key = some value →
      r.definition.properties.find? key = some value) (hplaced : r.placements ≠ [])
    (mayExtend : Bool) : ensureResource request mayExtend s
      = (.ok { definition := r.definition, group, placements := r.placements }, s) := by
  rw [ensureResource_of_metBy request hgroup hr hmet, updateProperties_of_recorded hrecorded]
  rcases @finish_cases request group [] s r hr with ⟨-, hfinish⟩ | ⟨hnil, -⟩ | ⟨_, hnil, -⟩
  · exact hfinish
  · exact absurd hnil hplaced
  · exact absurd hnil hplaced

/-- **A request that succeeds completes its resource**, leaves all others alone, and has nothing to
do the next time, if its group asks for replicas. -/
theorem ensureResource_completes (hs : s.Arises)
    (hdistinct : (request.volumes.map (·.number)).Nodup)
    (h : ensureResource request mayExtend s = (.ok deployment, t)) :
    (∃ r, t.resources.find? request.name = some r
      ∧ deployment.definition = r.definition ∧ deployment.placements = r.placements
      ∧ s.groups.find? request.resourceGroup = some deployment.group
      ∧ r.Completed request deployment.group (s.resources.find? request.name))
    ∧ SameOutside none request.name s t
    ∧ (0 < deployment.group.replicas →
      ensureResource request mayExtend t = (.ok deployment, t)) := by
  obtain ⟨r, hgroup, hr, hdeployment, hcompleted, hplaced⟩ :=
    exists_completed (hs.all ClusterResource.lasts_numbered) hdistinct h
  have hsame := sameOutside_ensureResource none request mayExtend s
  rw [h] at hsame
  refine ⟨⟨r, hr, congrArg Deployment.definition hdeployment,
    congrArg Deployment.placements hdeployment, hgroup, hcompleted⟩, hsame, fun hreplicas => ?_⟩
  have hnumbered : r.Numbered := by
    have hafter := (hs.call (.ensureResource request mayExtend)).all ClusterResource.lasts_numbered
    exact hafter request.name r ((congrArg (fun x => x.2.resources.find? request.name) h).trans hr)
  have hmet : request.MetBy r.volumes.values := fun v hv => by
    rw [hnumbered.find?_values]
    exact hcompleted.requested v hv
  have hrecorded : ∀ key value, request.properties.find? key = some value →
      r.definition.properties.find? key = some value := by
    intro key value hvalue
    cases hold : s.resources.find? request.name with
    | none => rwa [hcompleted.created hold]
    | some old => rw [hcompleted.merged old hold, SortedMap.find?_override, hvalue, Option.some_or]
  rw [ensureResource_of_complete (hsame.groups ▸ hgroup) hr hmet hrecorded (hplaced hreplicas),
    ← hdeployment]

/-! ## A leftover -/

/-- A request for one volume and more replicas than a cluster has nodes. -/
def wideRequest : ResourceRequest :=
  { requestOf [0] with
    resourceGroup := "wide", properties := .ofList [("site", "west"), ("tier", "slow")] }

/-- What such a request leaves behind: a definition with a volume, placed nowhere. -/
def leftover : Cluster :=
  (StoreCall.ensureResource wideRequest false).after
    (Cluster.addGroup {} { name := "wide", placeCount := some 5 })

lemma arises_leftover : leftover.Arises := ((Arises.fresh _ _ _).group _).call _

/-- A request for one volume more and another property. -/
def tieredRequest : ResourceRequest :=
  { requestOf [0, 1] with properties := .ofList [("tier", "fast")] }

/-- The deployment of the leftover once it is completed: the definition stays in its group. -/
def completedLeftover : Deployment :=
  { definition :=
      { name := "data", resourceGroup := "wide"
        properties := .ofList [("site", "west"), ("tier", "fast")] }
    group := { name := defaultResourceGroup, placeCount := some 2 }
    placements := newPlacements "data" [0, 1] 1000 ["node-a", "node-b"] }

/-- **A leftover is completed**, and then nothing is left to do. -/
theorem ensureResource_completes_leftover :
    leftover.Arises
      ∧ (leftover.resources.find? "data").map (fun r => (r.volumes.keys, r.placements))
        = some ([0], [])
      ∧ ∃ t, ensureResource tieredRequest true leftover = (.ok completedLeftover, t)
        ∧ t.storageWrites = leftover.storageWrites + 3
        ∧ ensureResource tieredRequest true t = (.ok completedLeftover, t) := by
  have hanswer : (ensureResource tieredRequest true leftover).1 = .ok completedLeftover :=
    toOption_eq_some_iff.1 (by decide +kernel)
  have hrun : ensureResource tieredRequest true leftover
      = (.ok completedLeftover, (ensureResource tieredRequest true leftover).2) :=
    Prod.ext hanswer rfl
  obtain ⟨-, -, hagain⟩ := ensureResource_completes arises_leftover (by decide) hrun
  exact ⟨arises_leftover, by decide +kernel, _, hrun, by decide +kernel, hagain (by decide)⟩

end Cluster

end FailoverStorage

import FailoverStorage.Proofs.Gateway.Extension

/-!
# Volumes of one kind

Sizes of data volumes are gross or net, and all data volumes of a resource are of the same kind, in
every run of all protocols (`Cluster.Reachable.evenAt`).

A new resource has volumes of the kind that is asked for, and nothing is added to one that exists
but by an endpoint whose kind was read off the volumes that are there.  Between this reading and the
addition nothing happens to the resource (`Operation.resources_addVolume`).
-/

namespace FailoverStorage

open FailoverStorage.Action

/-! ## Kinds of sizes -/

namespace Endpoint

variable {gross : Bool} {volumeDefinitions : List VolumeDefinition}

/-- Data volumes are of one kind. -/
def SizedAs (gross : Bool) (volumeDefinitions : List VolumeDefinition) : Prop :=
  ∀ d ∈ volumeDefinitions, d.number ≠ Volume.privateNumber → d.gross = gross

/-- There is a data volume. -/
def HasData (volumeDefinitions : List VolumeDefinition) : Prop :=
  ∃ d ∈ volumeDefinitions, d.number ≠ Volume.privateNumber

/-- **The kind of data volumes shows if there are some.** -/
lemma SizedAs.grossSizeOf_iff (h : SizedAs gross volumeDefinitions) :
    grossSizeOf volumeDefinitions = true ↔ gross = true ∧ HasData volumeDefinitions := by
  simp only [grossSizeOf, List.any_eq_true, Bool.and_eq_true, decide_eq_true_eq]
  constructor
  · rintro ⟨d, hd, hnumber, hgross⟩
    exact ⟨h d hd hnumber ▸ hgross, d, hd, hnumber⟩
  · rintro ⟨hgross, d, hd, hnumber⟩
    exact ⟨d, hd, hnumber, (h d hd hnumber).trans hgross⟩

lemma SizedAs.of_subset {l : List VolumeDefinition} (h : SizedAs gross volumeDefinitions)
    (hsub : ∀ d ∈ l, d ∈ volumeDefinitions) : SizedAs gross l :=
  fun d hd => h d (hsub d hd)

end Endpoint

/-- **All data volumes of a resource are of one kind**, the one that they show. -/
def ClusterResource.Even (r : ClusterResource) : Prop :=
  Endpoint.SizedAs (Endpoint.grossSizeOf r.volumes.values) r.volumes.values

lemma ClusterResource.even_of_sizedAs {r : ClusterResource} {gross : Bool}
    (h : Endpoint.SizedAs gross r.volumes.values) : r.Even := by
  intro d hd hnumber
  have hdata : Endpoint.HasData r.volumes.values := ⟨d, hd, hnumber⟩
  rw [h d hd hnumber, Bool.eq_iff_iff, h.grossSizeOf_iff, and_iff_left hdata]

/-- Removing a volume leaves the others, and their kind. -/
lemma ClusterResource.mem_values_removeVolume {r : ClusterResource} {number : UInt32}
    {d : VolumeDefinition} (hd : d ∈ (Cluster.removeVolume number r).volumes.values) :
    d ∈ r.volumes.values := by
  obtain ⟨key, hfind⟩ := SortedMap.mem_values_iff.1 hd
  rw [Cluster.removeVolume, SortedMap.find?_erase] at hfind
  split at hfind
  · cases hfind
  · exact SortedMap.mem_values_iff.2 ⟨key, hfind⟩

namespace ResourceRequest

/-- The missing volumes are of the kind that is asked for. -/
lemma sizedAs_withVolumes {request : ResourceRequest} {volumes : SortedMap UInt32 VolumeDefinition}
    (h : Endpoint.SizedAs request.grossSize volumes.values) (missing : List Volume) :
    Endpoint.SizedAs request.grossSize (request.withVolumes missing volumes).values := by
  induction missing generalizing volumes with
  | nil => exact h
  | cons v rest ih =>
      refine ih fun d hd hnumber => ?_
      obtain ⟨key, hfind⟩ := SortedMap.mem_values_iff.1 hd
      rw [SortedMap.find?_insert] at hfind
      split at hfind
      · cases hfind
        have hdata : v.number ≠ Volume.privateNumber := hnumber
        simp [volumeDefinition, hdata]
      · exact h d (SortedMap.mem_values_iff.2 ⟨key, hfind⟩) hnumber

end ResourceRequest

/-! ## Resources of one kind -/

namespace Cluster

variable {name : String} {s t : Cluster} {request : ResourceRequest}

/-- The data volumes of what exists under a name are of one kind. -/
def EvenAt (name : String) (c : Cluster) : Prop :=
  ∀ r, c.resources.find? name = some r → r.Even

/-- The kind of volumes shows in the layout. -/
lemma EvenAt.of_layout (h : EvenAt name s) (hlayout : t.layout? name = s.layout? name) :
    EvenAt name t := by
  intro r hr
  obtain ⟨r₀, hr₀, heq⟩ := exists_of_layout?_eq hlayout hr
  rw [ClusterResource.Even, (ClusterResource.layout_eq_iff.1 heq).2.1]
  exact h r₀ hr₀

lemma keeps_evenAt_of_layout {α : Type} {a : Action Cluster α}
    (h : ∀ c, (a c).2.layout? name = c.layout? name) : Keeps (EvenAt name) a :=
  Triple.of_state fun c hc => hc.of_layout (h c)

/-- **What was asked for in the kind that is there** is of that kind. -/
lemma sizedAs_ensureResource {mayExtend : Bool}
    (hkind : ∀ r, s.resources.find? request.name = some r →
      Endpoint.SizedAs request.grossSize r.volumes.values) {r : ClusterResource}
    (hr : (ensureResource request mayExtend s).2.resources.find? request.name = some r) :
    Endpoint.SizedAs request.grossSize r.volumes.values := by
  rcases ensureResource_find? request mayExtend s with
    ⟨err, herr⟩ | ⟨group, missing, r', -, -, hr', -, hvolumes⟩
  · rw [herr] at hr
    exact hkind r hr
  · cases hr.symm.trans hr'
    rw [hvolumes]
    refine ResourceRequest.sizedAs_withVolumes ?_ missing
    rw [existingVolumes]
    cases hold : s.resources.find? request.name with
    | none => exact fun d hd => absurd hd List.not_mem_nil
    | some r₀ => exact hkind r₀ hold

/-- A request that may not extend leaves volumes of one kind. -/
lemma keeps_evenAt_ensureResource_false (request : ResourceRequest) :
    Keeps (EvenAt request.name) (ensureResource request false) := by
  refine Triple.of_state fun c hc r hr => ?_
  cases hold : c.resources.find? request.name with
  | none =>
      refine ClusterResource.even_of_sizedAs (sizedAs_ensureResource (fun r₀ hr₀ => ?_) hr)
      rw [hold] at hr₀
      cases hr₀
  | some r₀ =>
      obtain ⟨r', hr', hvolumes, -⟩ := ensureResource_false_find? hold
      cases hr.symm.trans hr'
      rw [ClusterResource.Even, hvolumes]
      exact hc r₀ hold

lemma keeps_evenAt_deleteResource (name : String) : Keeps (EvenAt name) (deleteResource name) := by
  refine Triple.of_state fun c hc => ?_
  rcases deleteResource_cases name c with ⟨-, err, h⟩ | ⟨r, -, -, h⟩
  · rw [h]
    exact hc
  · rw [h]
    intro r' hr'
    simp [countStorageWrite] at hr'

lemma keeps_evenAt_deleteVolume (name : String) (number : UInt32) :
    Keeps (EvenAt name) (deleteVolume name number) := by
  refine Triple.of_state fun c hc => ?_
  rcases deleteVolume_cases name number c with ⟨-, err, h⟩ | ⟨r, hr, -, h⟩
  · rw [h]
    exact hc
  · rw [h]
    intro r' hr'
    have hchanged := (find?_changeResource c name name (removeVolume number)).symm.trans hr'
    rw [if_pos rfl, hr] at hchanged
    cases hchanged
    exact ClusterResource.even_of_sizedAs
      ((hc r hr).of_subset fun d => ClusterResource.mem_values_removeVolume)

end Cluster

/-! ## Operations -/

namespace Operation

variable {asked : (p : Protocol) → Endpoint p → Prop} {p : Protocol} {id : p.Identity}
  {c : Cluster} (w : Waiter)

lemma keeps_evenAt_placements (name : String) :
    Keeps (Cluster.EvenAt name) (Cluster.placements name) :=
  Cluster.keeps_evenAt_of_layout fun c => Cluster.layout?_placements name name c

lemma keeps_evenAt_store (name : String) (e : Endpoint p) (placements : List Placement)
    (verb : String) : Keeps (Cluster.EvenAt name) ((gateway w).store e placements verb) :=
  Cluster.keeps_evenAt_of_layout fun c => by
    rw [Cluster.layout?, Cluster.layout?, resources_store]

lemma keeps_evenAt_start (id : p.Identity) :
    Keeps (Cluster.EvenAt (Protocol.resourceName id)) ((gateway w).start id) :=
  keeps_switch w ((readOnly_find w id).keeps _) (fun _ h => h)
    (fun stored => Cluster.keeps_evenAt_of_layout fun c =>
      Cluster.layout?_schedule stored.config true c _)
    (keeps_evenAt_placements _) _ _ _

lemma keeps_evenAt_stop (id : p.Identity) :
    Keeps (Cluster.EvenAt (Protocol.resourceName id)) ((gateway w).stop id) :=
  keeps_switch w ((readOnly_find w id).keeps _) (fun _ h => h)
    (fun stored => Cluster.keeps_evenAt_of_layout fun c =>
      Cluster.layout?_detach stored.config c _)
    (keeps_evenAt_placements _) _ _ _

lemma keeps_evenAt_delete (id : p.Identity) :
    Keeps (Cluster.EvenAt (Protocol.resourceName id)) ((gateway w).delete id) := by
  refine Triple.bind (Triple.inPhase _ (Cluster.keeps_evenAt_of_layout fun c =>
    Cluster.layout?_withoutConfig _ c _)) fun _ => ?_
  refine Triple.bind (Gateway.keeps_await (keeps_evenAt_placements _) _ _) fun _ =>
    Triple.inPhase _ ?_
  exact Triple.orAbsent (Cluster.keeps_evenAt_deleteResource _) (fun _ h => h) fun _ h => h

lemma keeps_evenAt_create (requested : Endpoint p) :
    Keeps (Cluster.EvenAt requested.resourceName) ((gateway w).create requested) := by
  refine Triple.bind ((readOnly_ofExcept _).keeps _) fun _ => ?_
  refine Triple.bind ((readOnly_checkExclusive w _).keeps _) fun _ => ?_
  refine Triple.bind ((readOnly_find w _).keeps _) fun stored? => ?_
  cases stored? with
  | some stored => exact (readOnly_existing w stored _ _).keeps _
  | none =>
      refine Triple.bind (Triple.inPhase _ (Cluster.keeps_evenAt_ensureResource_false
        (Gateway.resourceRequest requested.fillDefaults))) fun deployment => ?_
      refine Triple.bind (keeps_evenAt_store w _ _ _ _) fun _ => ?_
      refine Triple.bind (keeps_evenAt_start w requested.identity) fun started => ?_
      cases started with
      | some e => exact (readOnly_pure _).keeps _
      | none => exact (readOnly_throw _).keeps _

lemma keeps_evenAt_deleteVolume (id : p.Identity) (number : UInt32) :
    Keeps (Cluster.EvenAt (Protocol.resourceName id)) ((gateway w).deleteVolume id number) := by
  rw [Gateway.deleteVolume]
  split
  · exact (readOnly_throw _).keeps _
  refine Triple.bind ((readOnly_find w id).keeps _) fun stored? => ?_
  cases stored? with
  | none => exact (readOnly_pure _).keeps _
  | some stored =>
      refine Triple.bind ((readOnly_load w stored _).keeps _) fun x => ?_
      simp only
      split
      · exact (readOnly_throw _).keeps _
      refine Triple.bind (Triple.inPhase _ (Triple.orAbsent
        (Cluster.keeps_evenAt_deleteVolume _ number) (fun _ h => h) fun _ h => h)) fun _ => ?_
      exact Triple.bind (keeps_evenAt_store w _ _ _ _) fun _ => (readOnly_get w id).keeps _

/-- Adding a volume to an endpoint leaves volumes of one kind, since the kind that is asked for was
read off them. -/
lemma evenAt_addVolume (hrooted : Rooted asked id c)
    (hc : Cluster.EvenAt (Protocol.resourceName id) c) (v : Volume) :
    Cluster.EvenAt (Protocol.resourceName id) ((addVolume id v).after w c) := by
  intro r hr
  rcases resources_addVolume w v c with hsame | ⟨e, he, hsame⟩
  · rw [show ((addVolume id v).after w c).resources = c.resources from hsame] at hr
    exact hc r hr
  · have hseen := hrooted.seen he
    rw [show ((addVolume id v).after w c).resources = _ from hsame, ← hseen.resourceName] at hr
    refine ClusterResource.even_of_sizedAs (Cluster.sizedAs_ensureResource (fun r₀ hr₀ => ?_) hr)
    have hname : (Gateway.resourceRequest (extended e v)).name = Protocol.resourceName id :=
      hseen.resourceName
    rw [hname] at hr₀
    have hgross := hseen.grossSize
    rw [Cluster.deployment, hr₀] at hgross
    rw [show (Gateway.resourceRequest (extended e v)).grossSize = _ from hgross]
    exact hc r₀ hr₀

/-- **Every operation leaves the volumes of its resource of one kind**, whether it succeeds or
fails. -/
theorem evenAt_after (op : Operation p) (hop : op.identity? = some id)
    (hrooted : Rooted asked id c) (hc : Cluster.EvenAt (Protocol.resourceName id) c) :
    Cluster.EvenAt (Protocol.resourceName id) (op.after w c) := by
  cases op with
  | list => cases hop
  | get id =>
      cases hop
      exact ((readOnly_get w id).keeps _).state hc
  | create requested =>
      cases hop
      exact (keeps_evenAt_create w requested).state hc
  | start id =>
      cases hop
      exact (keeps_evenAt_start w id).state hc
  | stop id =>
      cases hop
      exact (keeps_evenAt_stop w id).state hc
  | delete id =>
      cases hop
      exact (keeps_evenAt_delete w id).state hc
  | addVolume id v =>
      cases hop
      exact evenAt_addVolume w hrooted hc v
  | deleteVolume id number =>
      cases hop
      exact (keeps_evenAt_deleteVolume w id number).state hc

end Operation

/-- **In every run the data volumes of each resource are of one kind.** -/
theorem Cluster.Reachable.evenAt {allowed : Protocol → Prop} {c : Cluster}
    (hc : Reachable allowed c) (name : String) : EvenAt name c := by
  induction hc with
  | fresh nodes groups polls hgroups => exact fun r hr => nomatch hr
  | @operate c p hc _ op w ih =>
      cases hop : op.identity? with
      | none => rwa [Operation.after_of_identity?_eq_none w hop]
      | some id =>
          by_cases hname : name = Protocol.resourceName id
          · subst hname
            exact op.evenAt_after w hop (hc.reachableBy.rooted.endpoint id) ih
          · intro r hr
            rw [(op.confined_after w hop (hc.ownTexts p id)).1.resources name hname] at hr
            exact ih r hr
  | stall _ stalled ih => exact ih
  | failPolls _ failingPolls ih => exact ih
  | setDiskState _ other node number state ih =>
      exact ih.of_layout (layout?_setDiskState other node number state _ name)

end FailoverStorage

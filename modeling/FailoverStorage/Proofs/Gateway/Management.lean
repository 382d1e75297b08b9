import FailoverStorage.Proofs.Gateway.Consistency
import FailoverStorage.Proofs.Gateway.Evenness
import FailoverStorage.Proofs.Gateway.Removal
import FailoverStorage.Proofs.Gateway.Repetition
import FailoverStorage.Proofs.Status

/-!
# Managing the volumes of an endpoint

Volumes of an endpoint are added and deleted one after the other (`Operation.Managed`), and one
expects that everything else of the endpoint survives it.

**One call** reads the endpoint, changes its resource, and writes the endpoint with other volumes.
What the resource carries of it stays (`Endpoint.CarriedBy`), and what is then read back of the two
is what survives (`Endpoint.SurvivesAs`).

**All calls** (`Cluster.Reachable.survives_managed`).  Identity, addresses and group always survive.
The kind of sizes survives as long as a data volume is left, since nothing else carries it:
`Operation.exists_managed_gross` loses it.  Settings survive without any volume where the
definition records them, which it does unless another protocol meddled with the resource.
-/

namespace FailoverStorage

open FailoverStorage.Action

/-! ## What survives a change -/

namespace Endpoint

variable {p : Protocol} {e e' : Endpoint p} {before after : DeployedState}

/-- **A resource carries an endpoint** that was read before something happened to the resource: it
has its group, its kind of sizes, and no other settings; a record of the settings is kept. -/
structure CarriedBy (e : Endpoint p) (before after : DeployedState) : Prop where
  group : groupOf after.definition = e.resourceGroup
  sized : SizedAs e.grossSize after.volumeDefinitions
  compatible : e.CompatibleWith after.definition
  recorded : e.RecordedIn before.definition → e.RecordedIn after.definition

/-- **What survives of an endpoint** whose volumes are changed: everything but the volumes and the
status, if the data volumes were there to show that sizes are gross (`shown`), and the settings were
recorded or their agents were there (`told`). -/
structure SurvivesAs (e e' : Endpoint p) (before after : DeployedState) (shown told : Prop) :
    Prop where
  identity : e'.identity = e.identity
  serviceIps : e'.serviceIps = e.serviceIps
  resourceGroup : e'.resourceGroup = e.resourceGroup
  grossSize : e'.grossSize = true ↔ e.grossSize = true ∧ shown
  settings : e.RecordedIn before.definition ∨ told → e'.settings = e.settings
  recorded : e.RecordedIn before.definition → e'.RecordedIn after.definition

lemma survivesAs_refl (e : Endpoint p) (before : DeployedState) :
    e.SurvivesAs e before before True True :=
  ⟨rfl, rfl, rfl, (and_iff_left trivial).symm, fun _ => rfl, fun h => h⟩

/-- What survives twice survives both. -/
lemma SurvivesAs.trans {e'' : Endpoint p} {after' : DeployedState} {shown told shown' told' : Prop}
    (h : e.SurvivesAs e' before after shown told)
    (h' : e'.SurvivesAs e'' after after' shown' told') :
    e.SurvivesAs e'' before after' (shown ∧ shown') (told ∧ told') where
  identity := h'.identity.trans h.identity
  serviceIps := h'.serviceIps.trans h.serviceIps
  resourceGroup := h'.resourceGroup.trans h.resourceGroup
  grossSize := h'.grossSize.trans ((and_congr_left' h.grossSize).trans and_assoc)
  settings := by
    rintro (hrecorded | ⟨htold, htold'⟩)
    · exact (h'.settings (.inl (h.recorded hrecorded))).trans (h.settings (.inl hrecorded))
    · exact (h'.settings (.inr htold')).trans (h.settings (.inr htold))
  recorded := fun hrecorded => h'.recorded (h.recorded hrecorded)

lemma SurvivesAs.imp {shown told shown' told' : Prop}
    (h : e.SurvivesAs e' before after shown told) (hshown : shown ↔ shown')
    (htold : told' → told) : e.SurvivesAs e' before after shown' told' where
  identity := h.identity
  serviceIps := h.serviceIps
  resourceGroup := h.resourceGroup
  grossSize := h.grossSize.trans (and_congr_right' hshown)
  settings := fun hcarried => h.settings (hcarried.imp_right htold)
  recorded := h.recorded

/-- What is read back of an endpoint with other volumes survives, if the resource carries it. -/
lemma CarriedBy.survivesAs (h : e.CarriedBy before after) {volumes : List Volume}
    (hread : ({ e with volumes } : Endpoint p).ReadBack after.definition after.volumeDefinitions
      e') : e.SurvivesAs e' before after (HasData after.volumeDefinitions) (e'.volumes ≠ []) := by
  have hsame : ({ e with volumes } : Endpoint p).settings = e.settings := rfl
  have hsettings : e.RecordedIn before.definition ∨ e'.volumes ≠ [] →
      e'.settings = e.settings := by
    intro hcarried
    refine hread.settings ((compatibleWith_congr hsame).2 h.compatible) ?_
    refine hcarried.imp (fun hrecorded => (recordedIn_congr hsame).2 (h.recorded hrecorded))
      fun hne hnil => hne ?_
    rw [hread.volumes, hnil]
    rfl
  refine ⟨hread.identity, hread.serviceIps, hread.resourceGroup.trans h.group, ?_, hsettings,
    fun hrecorded => ?_⟩
  · rw [hread.grossSize]
    exact h.sized.grossSizeOf_iff
  · exact (recordedIn_congr (hsettings (.inl hrecorded))).2 (h.recorded hrecorded)

/-- A definition that is ensured for an endpoint of its group keeps the group. -/
lemma groupOf_definitionFrom {request : ResourceRequest} {group : ResourceGroup}
    {definition? : Option ResourceDefinition} (h : request.resourceGroup = groupOf definition?)
    (hname : group.name = request.resourceGroup) :
    groupOf (some (request.definitionFrom group definition?)) = groupOf definition? := by
  cases definition? with
  | some d => exact groupOf_congr rfl
  | none =>
      have hgroup : (request.definitionFrom group none).resourceGroup = groupOf none :=
        hname.trans h
      rw [groupOf_some (hgroup ▸ groupOf_ne_empty none), hgroup]

end Endpoint

/-! ## Resources that are changed -/

/-- The kind of sizes that is read is that of the volumes. -/
lemma Cluster.EvenAt.sizedAs {name : String} {c : Cluster} (h : EvenAt name c) :
    Endpoint.SizedAs (Endpoint.grossSizeOf (deployment name c).volumeDefinitions)
      (deployment name c).volumeDefinitions := by
  rw [deployment]
  cases hr : c.resources.find? name with
  | none => exact fun d hd => absurd hd List.not_mem_nil
  | some r => exact h r hr

/-- What is defined after a resource was ensured. -/
lemma Cluster.definition_of_ensureResource {request : ResourceRequest} {mayExtend : Bool}
    {c s : Cluster} {result : Deployment}
    (h : ensureResource request mayExtend c = (.ok result, s)) :
    ∃ group, c.groups.find? request.resourceGroup = some group
      ∧ (deployment request.name s).definition
        = some (request.definitionFrom group (deployment request.name c).definition) := by
  rcases ensureResource_find? request mayExtend c with
    ⟨err, herr⟩ | ⟨group, missing, r, hgroup, -, hr, hdefinition, -⟩
  · cases h.symm.trans herr
  have hold : (deployment request.name c).definition
      = (c.resources.find? request.name).map (·.definition) := by
    rw [deployment]
    cases c.resources.find? request.name <;> rfl
  rw [h] at hr
  rw [← hold] at hdefinition
  refine ⟨group, hgroup, ?_⟩
  rw [deployment, hr]
  exact congrArg some hdefinition

/-- What was ensured in the kind that is there has volumes of that kind. -/
lemma Cluster.sizedAs_of_ensureResource {request : ResourceRequest} {mayExtend : Bool}
    {c s : Cluster} {result : Deployment} (heven : EvenAt request.name c)
    (hgross : request.grossSize
      = Endpoint.grossSizeOf (deployment request.name c).volumeDefinitions)
    (h : ensureResource request mayExtend c = (.ok result, s)) :
    Endpoint.SizedAs request.grossSize (deployment request.name s).volumeDefinitions := by
  have hstate : (ensureResource request mayExtend c).2 = s := congrArg Prod.snd h
  rw [deployment]
  cases hr : s.resources.find? request.name with
  | none => exact fun d hd => absurd hd List.not_mem_nil
  | some r =>
      refine sizedAs_ensureResource (fun r₀ hr₀ => ?_) (hstate.symm ▸ hr)
      rw [hgross, deployment, hr₀]
      exact heven r₀ hr₀

namespace Operation

variable {asked : (p : Protocol) → Endpoint p → Prop} {p : Protocol} {id : p.Identity}
  {c s t : Cluster} {e : Endpoint p} (w : Waiter)

/-- What is reported is carried by the resource it was read of. -/
lemma Seen.carriedBy (h : Seen id e c) (heven : Cluster.EvenAt (Protocol.resourceName id) c) :
    e.CarriedBy (Cluster.deployment (Protocol.resourceName id) c)
      (Cluster.deployment (Protocol.resourceName id) c) :=
  ⟨h.resourceGroup.symm, h.grossSize ▸ heven.sizedAs, h.compatible, fun hrecorded => hrecorded⟩

/-- An endpoint that was reported leaves nothing open, so only volumes are added to it. -/
lemma Seen.extended_eq (h : Seen id e c) (v : Volume) :
    extended e v = { e with volumes := (extended e v).volumes } := by
  have hgroup : e.resourceGroup.isEmpty = false := by
    rw [h.resourceGroup]
    simpa using Endpoint.groupOf_ne_empty _
  have hfilled := h.shaped.filled
  simp only [extended, Endpoint.fillDefaults, hfilled, hgroup]
  rfl

/-- **Ensuring an endpoint with other volumes** leaves a resource that carries the endpoint. -/
lemma Seen.carriedBy_ensureResource (h : Seen id e c)
    (heven : Cluster.EvenAt (Protocol.resourceName id) c)
    (hgroups : ∀ name group, c.groups.find? name = some group → group.name = name)
    {volumes : List Volume} {deployment : Deployment}
    (hensure : Cluster.ensureResource
      (Gateway.resourceRequest ({ e with volumes } : Endpoint p)) true c = (.ok deployment, s)) :
    e.CarriedBy (Cluster.deployment (Protocol.resourceName id) c)
      (Cluster.deployment (Protocol.resourceName id) s) := by
  set request := Gateway.resourceRequest ({ e with volumes } : Endpoint p)
  have hname : request.name = Protocol.resourceName id := h.resourceName
  have hproperties : request.properties = e.properties := Endpoint.properties_congr rfl
  obtain ⟨group, hgroup, hdefinition⟩ := Cluster.definition_of_ensureResource hensure
  have hsized := Cluster.sizedAs_of_ensureResource (hname ▸ heven)
    (show request.grossSize = _ from hname ▸ h.grossSize) hensure
  rw [hname] at hdefinition hsized
  have hrecorded : e.RecordedIn (Cluster.deployment (Protocol.resourceName id) s).definition := by
    intro key value hvalue
    rw [hdefinition]
    exact ResourceRequest.find?_definitionFrom_of_requested _ (hproperties ▸ hvalue)
  refine ⟨?_, hsized, hrecorded.compatibleWith, fun _ => hrecorded⟩
  rw [hdefinition, Endpoint.groupOf_definitionFrom h.resourceGroup (hgroups _ _ hgroup),
    h.resourceGroup]

/-- **Removing a volume** leaves a resource that carries the endpoint. -/
lemma Seen.carriedBy_deleteVolume (h : Seen id e c)
    (heven : Cluster.EvenAt (Protocol.resourceName id) c) (number : UInt32) :
    e.CarriedBy (Cluster.deployment (Protocol.resourceName id) c)
      (Cluster.deployment (Protocol.resourceName id)
        (Cluster.deleteVolume (Protocol.resourceName id) number c).2) := by
  have hcarried := h.carriedBy heven
  rcases Cluster.deleteVolume_cases (Protocol.resourceName id) number c with
    ⟨-, err, hdelete⟩ | ⟨r, hr, hdefined, -⟩
  · rwa [hdelete]
  rw [Cluster.deployment_deleteVolume hr hdefined]
  refine ⟨hcarried.group, hcarried.sized.of_subset fun d hd => ?_, hcarried.compatible,
    hcarried.recorded⟩
  rw [Cluster.deployment, hr]
  exact ClusterResource.mem_values_removeVolume hd

/-! ## One call -/

/-- **An endpoint was written and read again**: its configuration was stored, and the result is what
is reported then. -/
structure Rewritten (id : p.Identity) (e : Endpoint p) (c : Cluster) (result : Option (Endpoint p))
    (t : Cluster) : Prop where
  written : ∃ config placements, e.toPromoter placements = .ok config
    ∧ t = (Cluster.ensureConfig config c).2
  answer : reported id t = .ok result

lemma rewritten_of_store {placements : List Placement} {verb : String}
    {result : Option (Endpoint p)}
    (h : ((gateway w).store e placements verb >>= fun _ => (gateway w).get id) s
      = (.ok result, t)) : Rewritten id e s result t := by
  obtain ⟨⟨⟩, u, hstore, hget⟩ := exists_of_bind_eq_ok h
  obtain ⟨config, _, hwrite, hensure⟩ := exists_of_bind_eq_ok hstore
  obtain ⟨hconfig, rfl⟩ := ofExcept_eq_ok hwrite
  have hwritten := of_inPhase_eq_ok hensure
  rw [get_eq_reported] at hget
  obtain ⟨hreported, rfl⟩ := Prod.mk.inj hget
  exact ⟨⟨config, placements, hconfig, (Prod.mk.inj hwritten).2.symm⟩, hreported⟩

/-- **What adding a volume to a reported endpoint consists of**: if the endpoint has the volume, it
is written again; if not, the resource is ensured for the extended endpoint, which is written. -/
lemma exists_of_addVolume_eq_ok (he : reported id c = .ok (some e)) {v : Volume}
    {result : Option (Endpoint p)} (h : (gateway w).addVolume id v c = (.ok result, t)) :
    Rewritten id e c result t
      ∨ ∃ deployment s, (extended e v).validate = .ok ()
        ∧ Cluster.ensureResource (Gateway.resourceRequest (extended e v)) true c
          = (.ok deployment, s)
        ∧ Rewritten id (extended e v) s result t := by
  obtain ⟨stored, hfound⟩ := exists_found_of_reported he
  obtain ⟨⟨⟩, _, hcheck, h⟩ := exists_of_bind_eq_ok h
  obtain ⟨-, rfl⟩ := ofExcept_eq_ok hcheck
  rw [bind_apply_ok (find_eq_ok w hfound)] at h
  simp only at h
  rw [bind_apply_ok (load_of_reported w hfound he)] at h
  simp only at h
  obtain ⟨⟨e₁, placements⟩, s, hwith, h⟩ := exists_of_bind_eq_ok h
  have hrewritten := rewritten_of_store w h
  rw [Gateway.withVolume] at hwith
  cases hfind : e.volumes.find? (·.number = v.number) with
  | some existing =>
      simp only [hfind] at hwith
      split at hwith
      · cases hwith
        exact .inl hrewritten
      · cases hwith
  | none =>
      simp only [hfind] at hwith
      split at hwith
      · cases hwith
      obtain ⟨⟨⟩, _, hvalidate, hwith⟩ := exists_of_bind_eq_ok hwith
      obtain ⟨hvalid, rfl⟩ := ofExcept_eq_ok hvalidate
      obtain ⟨deployment, u, hensure, hwith⟩ := exists_of_bind_eq_ok hwith
      cases hwith
      exact .inr ⟨deployment, s, hvalid, of_inPhase_eq_ok hensure, hrewritten⟩

/-- **What deleting a volume of a reported endpoint consists of**: the volume is removed from the
resource, and the endpoint without it is written. -/
lemma rewritten_of_deleteVolume_eq_ok (he : reported id c = .ok (some e)) {number : UInt32}
    {result : Option (Endpoint p)} (h : (gateway w).deleteVolume id number c = (.ok result, t)) :
    Rewritten id (e.withoutVolume number)
      (Cluster.deleteVolume (Protocol.resourceName id) number c).2 result t := by
  obtain ⟨stored, hfound⟩ := exists_found_of_reported he
  rw [Gateway.deleteVolume] at h
  split at h
  · cases h
  obtain ⟨_, _, hfind, h⟩ := exists_of_bind_eq_ok h
  cases hfind.symm.trans (find_eq_ok w hfound)
  obtain ⟨_, _, hload, h⟩ := exists_of_bind_eq_ok h
  cases hload.symm.trans (load_of_reported w hfound he)
  simp only at h
  split at h
  · cases h
  obtain ⟨⟨⟩, s, hremove, h⟩ := exists_of_bind_eq_ok h
  have hs : (Cluster.deleteVolume (Protocol.resourceName id) number c).2 = s := by
    rw [← state_orAbsent]
    exact congrArg Prod.snd (of_inPhase_eq_ok hremove)
  rw [hs]
  exact rewritten_of_store w h

/-- **What was written is read back**: an endpoint with other volumes survives in the cluster that
is left, if the resource carries it. -/
lemma Rewritten.exists_survives {volumes : List Volume} {result : Option (Endpoint p)}
    (h : Rewritten id { e with volumes } s result t) (hrooted : Rooted asked id t)
    (hshaped : ({ e with volumes } : Endpoint p).Shaped) (hid : e.configId = Protocol.configId id)
    {before : DeployedState}
    (hcarried : e.CarriedBy before (Cluster.deployment (Protocol.resourceName id) s)) :
    ∃ e', reported id t = .ok (some e')
      ∧ e.SurvivesAs e' before (Cluster.deployment (Protocol.resourceName id) t)
        (Endpoint.HasData (Cluster.deployment (Protocol.resourceName id) t).volumeDefinitions)
        (e'.volumes ≠ []) := by
  obtain ⟨⟨config, placements, hconfig, rfl⟩, hreported⟩ := h
  have hstored := stored_ensureConfig hconfig hid s
  cases result with
  | none =>
      rw [hstored.reported_eq] at hreported
      obtain ⟨_, -, hnone⟩ := map_eq_ok_iff.1 hreported
      cases hnone
  | some e' =>
      exact ⟨e', hreported, hcarried.survivesAs
        (hrooted.readBack_of_reported hshaped hconfig hstored.found_eq hreported)⟩

/-- **A call that changes the volumes of an endpoint**, and succeeds. -/
inductive VolumeCall (id : p.Identity) (s t : Cluster) : Prop where
  | add (w : Waiter) (v : Volume) (result : Option (Endpoint p))
      (h : (gateway w).addVolume id v s = (.ok result, t))
  | delete (w : Waiter) (number : UInt32) (result : Option (Endpoint p))
      (h : (gateway w).deleteVolume id number s = (.ok result, t))

lemma VolumeCall.reachable (h : VolumeCall id s t) (hs : Cluster.Reachable (fun _ => True) s) :
    Cluster.Reachable (fun _ => True) t := by
  cases h with
  | add w v result h =>
      have hafter : (addVolume id v).after w s = t := congrArg Prod.snd h
      exact hafter ▸ hs.operate trivial (addVolume id v) w
  | delete w number result h =>
      have hafter : (deleteVolume id number).after w s = t := congrArg Prod.snd h
      exact hafter ▸ hs.operate trivial (deleteVolume id number) w

/-- **What is reported survives one call**, the kind of sizes if a data volume is left, and the
settings if they were recorded or a volume is left. -/
lemma VolumeCall.exists_survives (h : VolumeCall id s t)
    (hs : Cluster.Reachable (fun _ => True) s) (he : reported id s = .ok (some e)) :
    ∃ e', reported id t = .ok (some e')
      ∧ e.SurvivesAs e' (Cluster.deployment (Protocol.resourceName id) s)
        (Cluster.deployment (Protocol.resourceName id) t)
        (Endpoint.HasData (Cluster.deployment (Protocol.resourceName id) t).volumeDefinitions)
        (e'.volumes ≠ []) := by
  have hseen := (hs.reachableBy.rooted.endpoint id).seen he
  have heven := hs.evenAt (Protocol.resourceName id)
  have hrooted := (h.reachable hs).reachableBy.rooted.endpoint id
  cases h with
  | add w v result h =>
      rcases exists_of_addVolume_eq_ok w he h with
        hwritten | ⟨deployment, s', hvalid, hensure, hwritten⟩
      · exact hwritten.exists_survives hrooted hseen.shaped hseen.hasId (hseen.carriedBy heven)
      · have hshaped : (extended e v).Shaped := (Endpoint.settled_fillDefaults hvalid).shaped
        rw [hseen.extended_eq] at hshaped hensure hwritten
        exact hwritten.exists_survives hrooted hshaped hseen.hasId
          (hseen.carriedBy_ensureResource heven (fun _ _ hgroup => hs.name_of_find?_groups hgroup)
            hensure)
  | delete w number result h =>
      exact (rewritten_of_deleteVolume_eq_ok w he h).exists_survives hrooted
        (hseen.shaped.withoutVolume number) hseen.hasId (hseen.carriedBy_deleteVolume heven number)

/-! ## All calls -/

/-- **The volumes of an endpoint are managed**: one call after the other succeeds, and the clusters
after each of them are visited, the last one first. -/
inductive Managed (id : p.Identity) (c : Cluster) : List Cluster → Cluster → Prop where
  | start : Managed id c [] c
  | call {visited : List Cluster} {s t : Cluster} (h : Managed id c visited s)
      (hcall : VolumeCall id s t) : Managed id c (t :: visited) t

lemma Managed.reachable {visited : List Cluster} (h : Managed id c visited t)
    (hc : Cluster.Reachable (fun _ => True) c) : Cluster.Reachable (fun _ => True) t := by
  induction h with
  | start => exact hc
  | call _ hcall ih => exact hcall.reachable ih

/-- **What is reported survives all calls**, the kind of sizes if a data volume was left after each
of them, and the settings if they were recorded or a volume was left. -/
lemma Managed.exists_survives {visited : List Cluster} (h : Managed id c visited t)
    (hc : Cluster.Reachable (fun _ => True) c) (he : reported id c = .ok (some e)) :
    ∃ e', reported id t = .ok (some e')
      ∧ e.SurvivesAs e' (Cluster.deployment (Protocol.resourceName id) c)
        (Cluster.deployment (Protocol.resourceName id) t)
        (∀ u ∈ visited,
          Endpoint.HasData (Cluster.deployment (Protocol.resourceName id) u).volumeDefinitions)
        (∀ u ∈ visited, ∃ b : Endpoint p, reported id u = .ok (some b) ∧ b.volumes ≠ []) := by
  induction h with
  | start =>
      refine ⟨e, he, (Endpoint.survivesAs_refl e _).imp ?_ fun _ => trivial⟩
      exact ⟨fun _ _ hu => absurd hu List.not_mem_nil, fun _ => trivial⟩
  | call h hcall ih =>
      obtain ⟨e₁, he₁, hsurvives⟩ := ih
      obtain ⟨e₂, he₂, hstep⟩ := hcall.exists_survives (h.reachable hc) he₁
      refine ⟨e₂, he₂, (hsurvives.trans hstep).imp ?_ fun htold => ?_⟩
      · rw [List.forall_mem_cons, and_comm]
      · obtain ⟨⟨b, hb, hne⟩, htold⟩ := List.forall_mem_cons.1 htold
        cases hb.symm.trans he₂
        exact ⟨htold, hne⟩

/-- Settings are recorded where the protocol keeps none of them as properties, and in every run of
the protocol alone. -/
lemma recordedIn_of_reported (hc : p ≠ .nfs ∨ Cluster.Reachable (· = p) c)
    (he : reported id c = .ok (some e)) :
    e.RecordedIn (Cluster.deployment (Protocol.resourceName id) c).definition := by
  rcases hc with hp | hc
  · intro key value hvalue
    cases p with
    | nfs => exact absurd rfl hp
    | _ => cases hvalue
  · obtain ⟨stored, r, -, -, -, -, hr, hdescribes⟩ :=
      describes_of_reported (hc.covered.covers id) he
    rw [Cluster.deployment, hr]
    exact hdescribes.recorded

end Operation

/-- **What survives volume management.**  In every run of all protocols, after calls that added and
deleted volumes of an endpoint and succeeded, the endpoint is reported with its identity, its
addresses and its group.  It is reported with its settings if its protocol keeps none of them as
properties, if no other protocol acted before, or if it had a volume after each call.  It is
reported with gross sizes exactly if it had them and a data volume was left after each call. -/
theorem Cluster.Reachable.survives_managed {c t : Cluster} (hc : Reachable (fun _ => True) c)
    {p : Protocol} {id : p.Identity} {e : Endpoint p} (w : Waiter)
    (he : ((Operation.gateway w).get id c).1 = .ok (some e)) {visited : List Cluster}
    (h : Operation.Managed id c visited t) :
    ∃ e', (∀ w', (Operation.gateway w').get id t = (.ok (some e'), t))
      ∧ e'.identity = e.identity ∧ e'.serviceIps = e.serviceIps
      ∧ e'.resourceGroup = e.resourceGroup
      ∧ (p ≠ .nfs ∨ Reachable (· = p) c
          ∨ (∀ u ∈ visited, ∃ b : Endpoint p,
            Operation.reported id u = .ok (some b) ∧ b.volumes ≠ []) →
        e'.settings = e.settings)
      ∧ (e'.grossSize = true ↔ e.grossSize = true ∧ ∀ u ∈ visited,
        Endpoint.HasData (deployment (Protocol.resourceName id) u).volumeDefinitions) := by
  rw [Operation.get_eq_reported] at he
  obtain ⟨e', he', hsurvives⟩ := h.exists_survives hc he
  refine ⟨e', fun w' => ?_, hsurvives.identity, hsurvives.serviceIps, hsurvives.resourceGroup,
    fun hcase => hsurvives.settings ?_, hsurvives.grossSize⟩
  · rw [Operation.get_eq_reported, he']
  · rw [← or_assoc] at hcase
    exact hcase.imp_left fun hrecorded => Operation.recordedIn_of_reported hrecorded he

namespace Operation

/-! ## Two managed subsystems -/

/-- A fresh cluster on which a subsystem was created and stopped. -/
def idleCluster (requested : Endpoint .nvmeof) : Cluster :=
  (stop requested.identity).after halfSecond (createdCluster requested)

lemma reachable_idleCluster (requested : Endpoint .nvmeof) :
    Cluster.Reachable (fun _ => True) (idleCluster requested) :=
  .operate (reachable_createdCluster trivial requested) trivial _ _

/-- What is reported of a subsystem that was created and stopped: it is in use nowhere, and has the
kind of sizes of its new volumes. -/
lemma exists_reported_idleCluster (requested : Endpoint .nvmeof)
    (hvalid : requested.fillDefaults.validate = .ok ()) (hgroup : requested.resourceGroup = "") :
    ∃ e r, reported requested.identity (idleCluster requested) = .ok (some e)
      ∧ (idleCluster requested).resources.find? requested.resourceName = some r
      ∧ r.volumes = requested.fillDefaults.newVolumes
      ∧ e.grossSize = Endpoint.grossSizeOf requested.fillDefaults.newVolumes.values
      ∧ e.status.service ≠ .started := by
  obtain ⟨config, r, -, hstands, hconfig, -, -, hvolumes⟩ :=
    exists_stands_createdCluster requested hvalid hgroup
  have hstop := hstands.stop halfSecond rfl
  have hreported := reported_eq_recovered (Endpoint.settled_fillDefaults hvalid)
    (fun _ hiqn => absurd hiqn List.not_mem_nil) hstop.found_eq hconfig hstop.resource
    (fun _ _ h => by cases h)
  have hgross := congrArg (fun volumes : SortedMap UInt32 VolumeDefinition =>
    Endpoint.grossSizeOf volumes.values) hvolumes
  refine ⟨_, _, hreported, hstop.resource, hvolumes, hgross, fun hstarted => ?_⟩
  rw [Status.service_ofPlacements_eq_started_iff, Cluster.any_isInUse_settle_false] at hstarted
  cases hstarted

/-- The settings of the subsystem survive the deletion of its only volume. -/
theorem survives_managed_plainSubsystem : ∃ e t e',
    ((gateway halfSecond).get dataNqn (idleCluster plainSubsystem)).1 = .ok (some e)
      ∧ Managed dataNqn (idleCluster plainSubsystem) [t] t
      ∧ ((gateway halfSecond).get dataNqn t).1 = .ok (some e')
      ∧ e'.settings = e.settings ∧ e'.resourceGroup = e.resourceGroup := by
  obtain ⟨e, r, he, -, -, -, hfree⟩ :=
    exists_reported_idleCluster plainSubsystem (by decide) rfl
  obtain ⟨e₁, t, hdelete, -, -⟩ := exists_deleteVolume halfSecond
    (reachable_idleCluster plainSubsystem) he hfree (show (1 : UInt32) ≠ _ by decide)
  have hget : ((gateway halfSecond).get dataNqn (idleCluster plainSubsystem)).1 = .ok (some e) := by
    rw [get_eq_reported]
    exact he
  have hmanaged : Managed dataNqn (idleCluster plainSubsystem) [t] t :=
    Managed.start.call (.delete halfSecond 1 _ hdelete)
  obtain ⟨e', he', -, -, hgroup, hsettings, -⟩ :=
    (reachable_idleCluster plainSubsystem).survives_managed halfSecond hget hmanaged
  exact ⟨e, t, e', hget, hmanaged, congrArg Prod.fst (he' halfSecond),
    hsettings (.inl (by decide)), hgroup⟩

/-- A subsystem of one volume that asks for gross sizes. -/
def grossVolumeSubsystem : Endpoint .nvmeof := { plainSubsystem with grossSize := true }

/-- **Gross sizes do not survive the deletion of the last volume**, since nothing else tells of
them. -/
theorem exists_managed_gross :
    Cluster.Reachable (fun _ => True) (idleCluster grossVolumeSubsystem) ∧ ∃ e t e',
      ((gateway halfSecond).get dataNqn (idleCluster grossVolumeSubsystem)).1 = .ok (some e)
        ∧ Managed dataNqn (idleCluster grossVolumeSubsystem) [t] t
        ∧ ((gateway halfSecond).get dataNqn t).1 = .ok (some e')
        ∧ e.grossSize = true ∧ e'.grossSize = false := by
  have hreachable := reachable_idleCluster grossVolumeSubsystem
  obtain ⟨e, r, he, hr, hvolumes, hgross, hfree⟩ :=
    exists_reported_idleCluster grossVolumeSubsystem (by decide) rfl
  obtain ⟨e', t, hdelete, he', hdeployed⟩ := exists_deleteVolume halfSecond hreachable he hfree
    (show (1 : UInt32) ≠ _ by decide)
  have hcall : VolumeCall dataNqn (idleCluster grossVolumeSubsystem) t :=
    .delete halfSecond 1 _ hdelete
  -- only the private volume is left, which shows nothing
  have hnone : ¬ Endpoint.HasData
      (Cluster.deployment (Protocol.resourceName dataNqn) t).volumeDefinitions := by
    have hleft : ∀ d ∈ (grossVolumeSubsystem.fillDefaults.newVolumes.erase 1).values,
        d.number = Volume.privateNumber := by
      decide
    have hdefined : r.volumes.contains 1 = true := by
      rw [hvolumes]
      decide
    have hshown : (Cluster.deployment (Protocol.resourceName dataNqn) t).volumeDefinitions
        = (r.volumes.erase 1).values := congrArg DeployedState.volumeDefinitions
      (hdeployed.trans (Cluster.deployment_deleteVolume hr hdefined))
    rw [hshown, hvolumes]
    exact fun ⟨d, hd, hnumber⟩ => hnumber (hleft d hd)
  obtain ⟨e₂, he₂, hsurvives⟩ := hcall.exists_survives hreachable he
  cases he'.symm.trans he₂
  refine ⟨hreachable, e, t, e', ?_, Managed.start.call hcall, ?_, ?_, ?_⟩
  · rw [get_eq_reported]
    exact he
  · rw [get_eq_reported]
    exact he'
  · rw [hgross]
    decide
  · rw [Bool.eq_false_iff, Ne, hsurvives.grossSize]
    exact fun h => hnone h.2

end Operation

end FailoverStorage

import FailoverStorage.Proofs.Cluster.Extending
import FailoverStorage.Proofs.Gateway.Adoption
import FailoverStorage.Proofs.Gateway.Grouping
import FailoverStorage.Proofs.Gateway.Resting
import FailoverStorage.Proofs.Gateway.Stranding

/-!
# Adding a volume and removing it

A volume that is added to an endpoint goes out again without a trace: what is reported, the stored
text and the storage are as they were, down to the order in which placements list their volumes
(`Cluster.Reachable.addVolume_reversible_iff`).

**There.**  The endpoint rests on a resource (`Operation.Rests`).  All that this resource lacks for
the endpoint with another volume is that volume, and on what the storage gains the new endpoint
rests in turn.

**And back.**  Removing the volume restores the resource, and what is written then is the
configuration that was stored before.

The one obstacle is a resource that is placed nowhere and for whose group there are too few nodes:
the request for the volume fails when the volume is defined.  Such a resource is left behind by a
creation that failed, and it gets a configuration if it is taken over in the name of another group,
one that asks for no replicas (`Operation.addVolume_adoptedCluster`).
-/

namespace FailoverStorage

open FailoverStorage.Action

/-! ## The storage -/

namespace Cluster

variable {name : String} {s t : Cluster} {r : ClusterResource} {d : VolumeDefinition} {minor : Nat}

/-- **A resource is placed, or there are nodes** for its group. -/
def Placeable (name : String) (c : Cluster) : Prop :=
  ∃ r group, c.resources.find? name = some r
    ∧ c.groups.find? r.definition.resourceGroup = some group
    ∧ (r.placements ≠ [] ∨ group.replicas ≤ c.nodes.length)

/-- Deleting the one volume that was added restores the storage. -/
lemma resources_deleteVolume_of_added {path : Option String} (hsame : SameOutside path name s t)
    (hr : s.resources.find? name = some r) (hcoherent : r.Coherent)
    (hnew : r.volumes.find? d.number = none)
    (ht : t.resources.find? name = some (withVolume d minor r)) :
    (deleteVolume name d.number t).2.resources = s.resources := by
  refine SortedMap.ext_find? fun other => ?_
  rcases deleteVolume_cases name d.number t with ⟨hnone, -⟩ | ⟨_, -, -, hdelete⟩
  · have habsent := hnone _ ht
    rw [withVolume, SortedMap.contains, SortedMap.find?_insert, if_pos rfl] at habsent
    cases habsent
  · have hchanged := find?_changeResource t name other (removeVolume d.number)
    rw [hdelete]
    by_cases hother : other = name
    · subst hother
      rw [if_pos rfl, ht, Option.map_some,
        ClusterResource.removeVolume_withVolume hcoherent hnew] at hchanged
      exact hchanged.trans hr.symm
    · rw [if_neg hother] at hchanged
      exact hchanged.trans (hsame.resources other hother)

end Cluster

namespace Operation

variable {p : Protocol} {id : p.Identity} {c t : Cluster} {e : Endpoint p} {v : Volume}
  {config : PromoterConfig} {attached : Bool} {r : ClusterResource} {group : ResourceGroup}
  (w : Waiter)

/-- Storing a configuration again where another took its place restores the configurations. -/
lemma Stored.configs_ensureConfig {config' : PromoterConfig} (h : Stored id config attached c)
    (h' : Stored id config' attached t)
    (hsame : ∀ path, path ≠ PromoterConfig.pathOf (Protocol.configId id) →
      t.configs.find? path = c.configs.find? path) :
    (Cluster.ensureConfig config t).2.configs = c.configs := by
  have hpath : config.path = PromoterConfig.pathOf (Protocol.configId id) :=
    congrArg PromoterConfig.pathOf h.belongs.hasId
  refine SortedMap.ext_find? fun path => ?_
  rw [Cluster.configs_ensureConfig, SortedMap.find?_insert, hpath, h'.text]
  split
  · rename_i heq
    rw [heq, h.text]
    rfl
  · rename_i hne
    exact hsame path hne

/-- The group that is asked for with a volume is that of the resource. -/
lemma Rests.find?_groups (h : Rests id e config attached r c) (v : Volume)
    (hgrouped : r.Grouped c) (hgroup : c.groups.find? r.definition.resourceGroup = some group) :
    c.groups.find? (Gateway.resourceRequest (e.withVolume v)).resourceGroup = some group := by
  have hname : r.definition.resourceGroup = e.resourceGroup := by
    rw [← h.told.1, Endpoint.groupOf_some hgrouped.named]
  rw [← hgroup, hname]
  rfl

/-- The resource that is asked for with a volume is that of the id. -/
lemma Rests.name_resourceRequest (h : Rests id e config attached r c) (v : Volume) :
    (Gateway.resourceRequest (e.withVolume v)).name = Protocol.resourceName id :=
  (Protocol.configId_inj h.hasId).2

/-! ## A volume more -/

/-- The definition of a data volume that is added to an endpoint. -/
def addedDefinition (e : Endpoint p) (v : Volume) : VolumeDefinition :=
  { number := v.number, sizeKib := v.sizeKib, gross := e.grossSize }

lemma volumeDefinition_fillVolume (hnumber : v.number ≠ Volume.privateNumber) :
    (Gateway.resourceRequest (e.withVolume v)).volumeDefinition (Endpoint.fillVolume p v)
      = addedDefinition e v := by
  simp [ResourceRequest.volumeDefinition, addedDefinition, Gateway.resourceRequest,
    Endpoint.withVolume, hnumber]

section

variable (h : Rests id e config attached r c)

include h

/-- Adding a new volume to an endpoint that is not in use comes to asking for its storage first, and
then storing the endpoint with the volume and reading it. -/
lemma Rests.addVolume_apply (hcheck : Volume.check [v] = .ok ())
    (hnew : v.number ∉ e.volumes.map (·.number)) (he : reported id c = .ok (some e))
    (hfree : e.status.service ≠ .started) : (gateway w).addVolume id v c
      = (do
          let deployment ← (Cluster.ensureResource (Gateway.resourceRequest (e.withVolume v))
            true).inPhase
              ("failed to reconcile resource " ++ Protocol.resourceName id)
          (gateway w).store (e.withVolume v) deployment.placements "update"
          (gateway w).get id) c := by
  have hchecked : Action.ofExcept (Volume.check [v]) c = (.ok (), c) := by
    rw [hcheck]
    rfl
  have hvalid : Action.ofExcept (e.withVolume v).validate c = (.ok (), c) := by
    rw [(h.settled.withVolume hnew hcheck).validate]
    rfl
  have hnone : e.volumes.find? (·.number = v.number) = none :=
    List.find?_eq_none.2 fun u hu => by
      simpa using fun heq => hnew (List.mem_map.2 ⟨u, hu, heq⟩)
  rw [Gateway.addVolume]
  refine (bind_apply_ok hchecked _).trans ?_
  refine (bind_apply_ok (find_eq_ok w h.stored.found_eq) _).trans ?_
  refine (bind_apply_ok (load_of_reported w h.stored.found_eq he) _).trans ?_
  simp only [Gateway.withVolume, hnone, if_neg hfree, h.settled.fillDefaults_append]
  have hensure : (gateway w).backend.storage.ensure = Cluster.ensureResource := rfl
  rw [bind_apply, bind_apply_ok hvalid, bind_apply, hensure, bind_apply]
  rcases Action.inPhase ("failed to reconcile resource " ++ Protocol.resourceName id)
    (Cluster.ensureResource (Gateway.resourceRequest (e.withVolume v)) true) c with ⟨_ | _, _⟩
  · rfl
  · rfl

variable (habsent : r.volumes.find? v.number = none)

include habsent

/-- **All that a resource lacks** for the endpoint with another volume is this volume. -/
lemma Rests.extends :
    (Gateway.resourceRequest (e.withVolume v)).Extends (Endpoint.fillVolume p v) r := by
  have hvalues := h.sound.coherent.find?_values
  have hprivate : ∃ d, r.volumes.find? Volume.privateNumber = some d
      ∧ d.sizeKib = Volume.clusterPrivate.sizeKib := Option.map_eq_some_iff.1 h.sound.privateVolume
  have hnone : r.volumes.values.find? (·.number = (Endpoint.fillVolume p v).number) = none := by
    rw [hvalues, Endpoint.number_fillVolume, habsent]
  have hproperties : (e.withVolume v).properties = e.properties := Endpoint.properties_congr rfl
  refine ⟨(ResourceRequest.missingAmong_true fun u hu d hd => ?_).trans (congrArg Except.ok ?_),
    fun key value hkey => h.provides.recorded key value (hproperties ▸ hkey)⟩
  · have hdefined : ∃ d, r.volumes.find? u.number = some d ∧ d.sizeKib = u.sizeKib := by
      rcases List.mem_cons.1 hu with rfl | hu
      · exact hprivate
      rcases Endpoint.mem_withVolume.1 hu with hu | rfl
      · exact h.find?_volumes hu
      · cases hnone.symm.trans hd
    obtain ⟨d', hd', hsize⟩ := hdefined
    rw [hvalues, hd'] at hd
    cases hd
    exact hsize
  · -- the volumes of the endpoint are there, wherever the new one stands among them
    have hkept : e.volumes.filter
        (fun u => (r.volumes.values.find? (·.number = u.number)).isNone) = [] := by
      refine List.filter_eq_nil_iff.2 fun u hu => ?_
      obtain ⟨d, hd, -⟩ := h.find?_volumes hu
      rw [hvalues, hd]
      exact Bool.false_ne_true
    have hperm := (sortOn_perm Volume.number (e.volumes ++ [Endpoint.fillVolume p v])).filter
      fun u => (r.volumes.values.find? (·.number = u.number)).isNone
    rw [List.filter_append, hkept, List.filter_singleton, hnone] at hperm
    obtain ⟨d, hd, -⟩ := hprivate
    have hfilter := List.perm_singleton.1 hperm
    refine (List.filter_cons_of_neg ?_).trans hfilter
    rw [hvalues, show Volume.clusterPrivate.number = Volume.privateNumber from rfl, hd]
    exact Bool.false_ne_true

variable (hcheck : Volume.check [v] = .ok ()) (hnew : v.number ∉ e.volumes.map (·.number))

include hcheck hnew

/-- **The endpoint with another volume rests on the resource with this volume** once its
configuration is stored, whatever is reported as its status. -/
lemma Rests.withVolume {minor : Nat} {config' : PromoterConfig} (status : Status)
    (hr : t.resources.find? (Protocol.resourceName id)
      = some (Cluster.withVolume (addedDefinition e v) minor r))
    (hconfig : (e.withVolume v).toPromoter
      (Cluster.withVolume (addedDefinition e v) minor r).placements = .ok config')
    (hstored : Stored id config' attached t) :
    Rests id { e.withVolume v with status } config' attached
      (Cluster.withVolume (addedDefinition e v) minor r) t := by
  obtain ⟨hnumber, hsize⟩ := (Volume.check_eq_ok_iff.1 hcheck).1 v List.mem_cons_self
  have hsettled := h.settled.withVolume hnew hcheck
  have hcoherent : (Cluster.withVolume (addedDefinition e v) minor r).Coherent :=
    h.sound.coherent.withVolume habsent hsize minor
  have hfind : ∀ number, (Cluster.withVolume (addedDefinition e v) minor r).volumes.find? number
      = if number = v.number then some (addedDefinition e v) else r.volumes.find? number :=
    fun number => SortedMap.find?_insert _ _ _ _
  exact
    { settled := ⟨hsettled.name, hsettled.checked, hsettled.filled, hsettled.fileSystems,
        hsettled.ascending, hsettled.numbers, hsettled.sizes, hsettled.resourceGroup⟩
      hasId := h.hasId
      blankFree := h.blankFree
      stored := hstored
      written := hconfig ▸ Endpoint.toPromoter_congr rfl rfl rfl rfl rfl
      resource := hr
      sound := ⟨hcoherent, h.sound.name, by
        rw [hfind, if_neg (Ne.symm hnumber)]
        exact h.sound.privateVolume⟩
      provides := by
        refine ⟨fun key value hkey => h.provides.recorded key value ?_, fun u hu => ?_⟩
        · have hproperties : ({ e.withVolume v with status } : Endpoint p).properties
              = e.properties := Endpoint.properties_congr rfl
          rw [← hproperties, hkey]
        · rw [Endpoint.sizeOf, hcoherent.find?_values, hfind]
          rcases Endpoint.mem_withVolume.1 hu with hu | rfl
          · obtain ⟨d, hd, hsize⟩ := h.find?_volumes hu
            rw [if_neg fun heq => hnew (List.mem_map.2 ⟨u, hu, heq⟩), hd]
            exact hsize
          · rw [if_pos (Endpoint.number_fillVolume p v), Endpoint.sizeKib_fillVolume]
            rfl
      told := ⟨h.told.1, (Endpoint.grossSizeOf_insert hnumber h.told.2.symm habsent).trans
        h.told.2⟩ }

/-- **Adding a volume** leaves the endpoint with the volume on the resource with the volume. -/
lemma Rests.exists_addVolume (hgrouped : r.Grouped c)
    (hgroup : c.groups.find? r.definition.resourceGroup = some group)
    (hplaced : r.placements ≠ [] ∨ group.replicas = 0) (he : reported id c = .ok (some e))
    (hfree : e.status.service ≠ .started) :
    ∃ e₁ config' minor t, (gateway w).addVolume id v c = (.ok (some e₁), t)
        ∧ reported id t = .ok (some e₁)
        ∧ e₁.agreesWith (e.withVolume v) = true
        ∧ e₁.status.service ≠ .started
        ∧ Rests id e₁ config' attached (Cluster.withVolume (addedDefinition e v) minor r) t
        ∧ Cluster.SameOutside (some (PromoterConfig.pathOf (Protocol.configId id)))
          (Protocol.resourceName id) c t := by
  have hnumber := ((Volume.check_eq_ok_iff.1 hcheck).1 v List.mem_cons_self).1
  have hname := h.name_resourceRequest v
  obtain ⟨s, hensure, hr', hsame⟩ := Cluster.exists_ensureResource_extension
    (h.find?_groups v hgrouped hgroup) (hname ▸ h.resource) (h.extends habsent) hplaced
  rw [hname] at hr' hsame
  rw [volumeDefinition_fillVolume hnumber] at hr' hensure
  set r' := Cluster.withVolume (addedDefinition e v) c.nextMinor r
  -- storing the endpoint keeps whether its configuration is attached
  obtain ⟨config', hconfig'⟩ := (h.settled.withVolume hnew hcheck).exists_toPromoter r'.placements
  have hpath : config'.path = PromoterConfig.pathOf (Protocol.configId id) :=
    congrArg PromoterConfig.pathOf
      ((PromoterConfig.belongs_of_toPromoter hconfig').hasId.trans h.hasId)
  have hstored := stored_ensureConfig hconfig' h.hasId s
  rw [hpath, hsame.find?_configs, h.stored.text, Option.map_some, Option.getD_some] at hstored
  set t := (Cluster.ensureConfig config' s).2
  have hrests := fun status => h.withVolume habsent hcheck hnew status
    (show t.resources.find? (Protocol.resourceName id) = some r' from hr') hconfig' hstored
  have hreported := (hrests {}).reported_eq
  refine ⟨_, config', c.nextMinor, t, ?_, hreported, ?_, ?_, hrests _, ?_⟩
  · have hstore : (gateway w).store (e.withVolume v) r'.placements "update" s = (.ok (), t) := by
      rw [Gateway.store, hconfig']
      rfl
    rw [h.addVolume_apply w hcheck hnew he hfree, bind_apply_ok (inPhase_apply_ok _ hensure),
      bind_apply_ok hstore, get_eq_reported, hreported]
  · exact decide_eq_true rfl
  · have huse : r'.placements.any (·.isInUse) = r.placements.any (·.isInUse) := by
      have hkept := ClusterResource.map_extendPlacements (f := Placement.isInUse) (fun _ _ => rfl)
        (addedDefinition e v).number c.nextMinor r.placements
      have hany := congrArg (List.any · fun use => use) hkept
      rwa [List.any_map, List.any_map] at hany
    rw [Ne, (hrests _).started_iff hreported, huse, ← h.started_iff he]
    exact hfree
  · exact (hsame.of_none _).trans (Cluster.sameOutside_ensureConfig hpath _ s)

/-- **Removing the volume again** restores storage and configurations, and what is reported. -/
lemma Rests.deleteVolume_added {e₁ : Endpoint p} {config' : PromoterConfig} {minor : Nat}
    (h' : Rests id e₁ config' attached (Cluster.withVolume (addedDefinition e v) minor r) t)
    (hagrees : e₁.agreesWith (e.withVolume v) = true)
    (hsame : Cluster.SameOutside (some (PromoterConfig.pathOf (Protocol.configId id)))
      (Protocol.resourceName id) c t)
    (he : reported id c = .ok (some e))
    (he' : reported id t = .ok (some e₁)) (hfree : e₁.status.service ≠ .started) :
    ∃ u, (gateway w).deleteVolume id v.number t = (.ok (some e), u) ∧ c.Spares u := by
  have hnumber := ((Volume.check_eq_ok_iff.1 hcheck).1 v List.mem_cons_self).1
  have hrestored := ClusterResource.removeVolume_withVolume (d := addedDefinition e v)
    h.sound.coherent habsent minor
  -- what is written is the configuration that was stored before the volume was added
  have hplacements : (Cluster.deployment (Protocol.resourceName id) t).placements.map
      (Gateway.withoutVolume v.number) = r.placements := by
    rw [Cluster.deployment, h'.resource]
    exact congrArg ClusterResource.placements hrestored
  obtain ⟨hidentity, hips, hsettings, hvolumes, -⟩ := Endpoint.mk.inj (of_decide_eq_true hagrees)
  have hkept : (e₁.withoutVolume v.number).volumes = e.volumes := by
    have hrest := congrArg Endpoint.volumes (h.settled.withoutVolume_withVolume hnew)
    rw [Endpoint.withoutVolume, hvolumes]
    exact hrest
  have hconfig : (e₁.withoutVolume v.number).toPromoter
      ((Cluster.deployment (Protocol.resourceName id) t).placements.map
        (Gateway.withoutVolume v.number)) = .ok config := by
    rw [hplacements, ← h.written]
    exact Endpoint.toPromoter_congr hidentity hips hsettings (congrArg (List.map _) hkept) rfl
  have hstorage := Cluster.resources_deleteVolume_of_added hsame h.resource h.sound.coherent habsent
    h'.resource
  have hdelete := deleteVolume_eq w he' hfree hnumber hconfig
  set s := (Cluster.deleteVolume (Protocol.resourceName id) v.number t).2
  set u := (Cluster.ensureConfig config s).2
  have hdeleted : Cluster.SameOutside none (Protocol.resourceName id) t s :=
    Cluster.sameOutside_deleteVolume none _ v.number t
  have hresources : u.resources = c.resources := hstorage
  have hconfigs : u.configs = c.configs :=
    h.stored.configs_ensureConfig
      ⟨h'.stored.belongs, (hdeleted.find?_configs _).trans h'.stored.text⟩
      fun path hpath => (hdeleted.find?_configs path).trans
        (hsame.configs path fun heq => hpath (Option.some.inj heq))
  have hgroups : u.groups = c.groups := hdeleted.groups.trans hsame.groups
  refine ⟨u, hdelete.trans ?_, hresources, hconfigs⟩
  rw [reported_congr (by rw [hconfigs]) (by rw [hresources]) hgroups, he]

/-- **Without nodes for the group** of a resource that is not placed, adding a volume fails when the
volume is defined. -/
lemma Rests.addVolume_unplaced (hgrouped : r.Grouped c)
    (hgroup : c.groups.find? r.definition.resourceGroup = some group) (hempty : r.placements = [])
    (hnodes : c.nodes.length < group.replicas) (he : reported id c = .ok (some e))
    (hfree : e.status.service ≠ .started) :
    ∃ err t, (gateway w).addVolume id v c = (.error err, t) ∧ t.configs = c.configs
      ∧ Cluster.Gains (Protocol.resourceName id) (addedDefinition e v) c t := by
  have hnumber := ((Volume.check_eq_ok_iff.1 hcheck).1 v List.mem_cons_self).1
  have hname := h.name_resourceRequest v
  obtain ⟨err, t, hensure, ht, hsame⟩ := Cluster.ensureResource_extension_unplaced
    (h.find?_groups v hgrouped hgroup) (hname ▸ h.resource) (h.extends habsent) hempty hnodes
  rw [hname] at ht hsame
  rw [volumeDefinition_fillVolume hnumber] at ht
  obtain ⟨err', hphase⟩ : ∃ err', Action.inPhase
      ("failed to reconcile resource " ++ Protocol.resourceName id)
      (Cluster.ensureResource (Gateway.resourceRequest (e.withVolume v)) true) c
        = (.error err', t) := by
    rw [Action.inPhase, hensure]
    exact ⟨_, rfl⟩
  exact ⟨err', t, (h.addVolume_apply w hcheck hnew he hfree).trans (bind_apply_error hphase _),
    SortedMap.ext_find? hsame.find?_configs,
    Cluster.gains_of_withVolume hsame.resources h.resource ht⟩

end

/-! ## There and back -/

/-- **An endpoint to which a volume can be added**: it is reported and not in use, and the volume
passes its check and is neither listed nor defined. -/
structure Addable (id : p.Identity) (v : Volume) (c : Cluster) (e : Endpoint p) : Prop where
  known : reported id c = .ok (some e)
  stopped : e.status.service ≠ .started
  valid : Volume.check [v] = .ok ()
  unlisted : v.number ∉ e.volumes.map (·.number)
  undefined : ¬ Cluster.HasVolume (Protocol.resourceName id) v.number c

lemma Addable.find?_volumes (h : Addable id v c e)
    (hr : c.resources.find? (Protocol.resourceName id) = some r) :
    r.volumes.find? v.number = none :=
  Option.eq_none_iff_forall_ne_some.2 fun d hd =>
    h.undefined ⟨r, hr, SortedMap.contains_iff.2 ⟨d, hd⟩⟩

/-- **A volume can be added and removed without a trace**: it is added in its place, the storage
gains just its definition and an entry in each placement, and when it is removed, what is reported,
resources and configurations are as they were. -/
def Reversible (w : Waiter) (id : p.Identity) (v : Volume) (e : Endpoint p) (c : Cluster) : Prop :=
  ∃ e₁ t u, (gateway w).addVolume id v c = (.ok (some e₁), t)
    ∧ e₁.agreesWith (e.withVolume v) = true
    ∧ Cluster.Gains (Protocol.resourceName id) (addedDefinition e v) c t
    ∧ (gateway w).deleteVolume id v.number t = (.ok (some e), u)
    ∧ c.Spares u

end Operation

namespace Cluster

open Operation

variable {p : Protocol} {id : p.Identity} {c : Cluster} {e : Endpoint p} {v : Volume}

/-- **Removing a volume undoes adding it**, in every run of one protocol, exactly if the resource of
the endpoint is placed or there are nodes for its group.  Otherwise adding fails when the volume is
defined, and the configuration stays without it. -/
theorem Reachable.addVolume_reversible_iff (hc : Reachable (· = p) c) (h : Addable id v c e)
    (w : Waiter) :
    (Reversible w id v e c ↔ c.Placeable (Protocol.resourceName id))
      ∧ (¬ c.Placeable (Protocol.resourceName id) →
        ∃ err t, (gateway w).addVolume id v c = (.error err, t) ∧ t.configs = c.configs
          ∧ Gains (Protocol.resourceName id) (addedDefinition e v) c t) := by
  obtain ⟨config, attached, r, hrests⟩ := exists_rests hc h.known
  have hgrouped := hc.interrupted.grouped.resources _ r hrests.resource
  obtain ⟨group, hgroup, hempty⟩ := hgrouped.known
  have habsent := h.find?_volumes hrests.resource
  have hplaceable : c.Placeable (Protocol.resourceName id)
      ↔ r.placements ≠ [] ∨ group.replicas ≤ c.nodes.length := by
    constructor
    · rintro ⟨r', group', hr', hgroup', hplaced⟩
      cases hrests.resource.symm.trans hr'
      cases hgroup.symm.trans hgroup'
      exact hplaced
    · exact fun hplaced => ⟨r, group, hrests.resource, hgroup, hplaced⟩
  have hfails : ¬ c.Placeable (Protocol.resourceName id) →
      ∃ err t, (gateway w).addVolume id v c = (.error err, t) ∧ t.configs = c.configs
        ∧ Gains (Protocol.resourceName id) (addedDefinition e v) c t := by
    intro hnot
    rw [hplaceable, not_or, not_not, not_le] at hnot
    exact hrests.addVolume_unplaced w habsent h.valid h.unlisted hgrouped hgroup hnot.1 hnot.2
      h.known h.stopped
  refine ⟨⟨fun ⟨e₁, t, u, hadd, _⟩ => ?_, fun hplaced => ?_⟩, hfails⟩
  · by_contra hnot
    obtain ⟨err, t', herr, -⟩ := hfails hnot
    cases hadd.symm.trans herr
  · have hnone : r.placements ≠ [] ∨ group.replicas = 0 := by
      by_cases hnil : r.placements = []
      · have hnodes := (hplaceable.1 hplaced).resolve_left (not_not_intro hnil)
        exact .inr ((hempty hnil).resolve_right (not_lt.2 hnodes))
      · exact .inl hnil
    obtain ⟨e₁, config', minor, t, hadd, he₁, hagrees, hfree, hrests', hsame⟩ :=
      hrests.exists_addVolume w habsent h.valid h.unlisted hgrouped hgroup hnone h.known h.stopped
    obtain ⟨u, hdelete, hspares⟩ := hrests.deleteVolume_added w habsent h.valid h.unlisted hrests'
      hagrees hsame h.known he₁ hfree
    exact ⟨e₁, t, u, hadd, hagrees, gains_of_withVolume hsame.resources hrests.resource
      hrests'.resource, hdelete, hspares⟩

end Cluster

namespace Operation

/-- Another volume for the subsystem. -/
def secondVolume : Volume := { number := 2, sizeKib := 2048 }

/-- The volume can be added to a subsystem that has the first one and is not in use. -/
lemma exists_addable_secondVolume {c : Cluster} {d : Endpoint .nvmeof} {placements : List Placement}
    {config : PromoterConfig} {attached : Bool} {r : ClusterResource} (hd : d.Settled)
    (hvolumes : d.volumes.map (·.number) = [1]) (hconfig : d.toPromoter placements = .ok config)
    (hstored : Stored dataNqn config attached c)
    (hr : c.resources.find? (Protocol.resourceName dataNqn) = some r)
    (hfree : r.placements.any (·.isInUse) = false) (hkeys : r.volumes.keys = [0, 1]) :
    ∃ e, Addable dataNqn secondVolume c e := by
  have hreported := reported_eq_recovered hd (fun _ h => nomatch h) hstored.found_eq hconfig hr
    fun _ _ h => nomatch h
  refine ⟨_, hreported, fun hstarted => ?_, by decide, fun hlisted => ?_, ?_⟩
  · have huse := (Status.service_ofPlacements_eq_started_iff attached r.definition _).1 hstarted
    rw [hfree] at huse
    cases huse
  · obtain ⟨u, hu, hnumber⟩ := List.mem_map.1 hlisted
    obtain ⟨u', hu', rfl⟩ := List.mem_map.1 hu
    have hone := hvolumes ▸ List.mem_map_of_mem hu'
    exact absurd ((List.mem_singleton.1 hone).symm.trans hnumber) (by decide)
  · rintro ⟨r', hr', hdefined⟩
    cases hr.symm.trans hr'
    rw [SortedMap.contains, ← SortedMap.mem_keys_iff, hkeys] at hdefined
    exact absurd hdefined (by decide)

/-- A volume can be added to the stopped subsystem and removed without a trace. -/
theorem reversible_stoppedCluster : ∃ e, Addable dataNqn secondVolume stoppedCluster e
    ∧ Reversible halfSecond dataNqn secondVolume e stoppedCluster := by
  have hreachable : Cluster.Reachable (· = .nvmeof) stoppedCluster := reachable_stoppedCluster rfl
  obtain ⟨placements, config, r, hconfig, hstands, -, hplaced, hfree, hkeys⟩ :=
    stands_stoppedCluster_volumes
  obtain ⟨e, haddable⟩ := exists_addable_secondVolume (Endpoint.settled_fillDefaults (by decide))
    (by decide) hconfig ⟨hstands.belongs, hstands.text⟩ hstands.resource hfree hkeys
  obtain ⟨group, hgroup, -⟩ :=
    (hreachable.interrupted.grouped.resources _ r hstands.resource).known
  exact ⟨e, haddable, (hreachable.addVolume_reversible_iff haddable halfSecond).1.2
    ⟨r, group, hstands.resource, hgroup, .inl hplaced⟩⟩

/-! ## A resource that was taken over -/

/-- A fresh cluster with a group that asks for too many replicas and one that asks for none. -/
def scarceCluster : Cluster :=
  { groups := .ofList
      [(defaultResourceGroup, usualGroup), ("wide", { name := "wide", placeCount := some 5 }),
        ("none", { name := "none", placeCount := some 0 })] }

/-- The subsystem of one volume in the group that asks for no replicas. -/
def unplacedSubsystem : Endpoint .nvmeof := { plainSubsystem with resourceGroup := "none" }

/-- A cluster on which the creation of the subsystem failed in one group, and was asked for in the
other. -/
def adoptedCluster : Cluster :=
  (create unplacedSubsystem).after halfSecond
    ((create wideSubsystem).after halfSecond scarceCluster)

lemma reachable_adoptedCluster : Cluster.Reachable (· = .nvmeof) adoptedCluster := by
  have hfresh : Cluster.Reachable (· = .nvmeof) scarceCluster := by
    refine .fresh _ _ _ fun name group hgroup => ?_
    simp only [SortedMap.find?_ofList, List.foldl_cons, List.foldl_nil] at hgroup
    repeat' split at hgroup
    all_goals cases hgroup
    all_goals exact Eq.symm ‹_›
  exact (hfresh.operate rfl (create wideSubsystem) halfSecond).operate rfl _ _

/-- The subsystem was stored over the resource that was left behind, which is placed nowhere. -/
lemma stands_adoptedCluster : ∃ placements config r,
    unplacedSubsystem.fillDefaults.toPromoter placements = .ok config
      ∧ Stored dataNqn config true adoptedCluster
      ∧ adoptedCluster.resources.find? (Protocol.resourceName dataNqn) = some r
      ∧ r.definition.resourceGroup = "wide" ∧ r.placements = [] ∧ r.volumes.keys = [0, 1] := by
  have hvalid : unplacedSubsystem.fillDefaults.validate = .ok () := by decide
  obtain ⟨outcome, t, hensure, hok⟩ : ∃ outcome t,
      Cluster.ensureResource (Gateway.resourceRequest unplacedSubsystem.fillDefaults) false
          ((create wideSubsystem).after halfSecond scarceCluster) = (outcome, t)
        ∧ (outcome.toOption.isSome
          && (t.resources.find? (Protocol.resourceName dataNqn)).any fun r =>
            r.definition.resourceGroup = "wide" && r.placements.isEmpty && r.volumes.keys = [0, 1])
          = true :=
    ⟨_, _, rfl, by decide +kernel⟩
  obtain ⟨hsome, hplaced⟩ := (Bool.and_eq_true _ _).mp hok
  obtain ⟨r, hr, hfacts⟩ := (Option.any_eq_true _ _).1 hplaced
  simp only [Bool.and_eq_true, decide_eq_true_eq, List.isEmpty_iff] at hfacts
  obtain ⟨⟨hgroup, hempty⟩, hkeys⟩ := hfacts
  cases outcome with
  | error err => cases hsome
  | ok deployment =>
      obtain ⟨config, hconfig⟩ :=
        (Endpoint.settled_fillDefaults hvalid).exists_toPromoter deployment.placements
      obtain ⟨hstored, hlayout⟩ :=
        stored_after_create halfSecond hvalid rfl (by decide +kernel) hensure hconfig
      obtain ⟨r', hr', heq⟩ := Cluster.exists_of_layout?_eq hlayout.symm hr
      obtain ⟨hdefinition, hvolumes, -⟩ := ClusterResource.layout_eq_iff.1 heq
      exact ⟨_, config, r', hconfig, hstored, hr', hdefinition ▸ hgroup,
        ClusterResource.placements_eq_nil_of_layout heq hempty, hvolumes ▸ hkeys⟩

/-- **Adding a volume that fails for good**: the resource that was taken over is placed nowhere, and
there are too few nodes for its group. -/
theorem addVolume_adoptedCluster : Cluster.Reachable (· = .nvmeof) adoptedCluster
    ∧ ∃ e, Addable dataNqn secondVolume adoptedCluster e
      ∧ ∃ err t, (gateway halfSecond).addVolume dataNqn secondVolume adoptedCluster
        = (.error err, t) := by
  obtain ⟨placements, config, r, hconfig, hstored, hr, hname, hempty, hkeys⟩ :=
    stands_adoptedCluster
  obtain ⟨e, haddable⟩ := exists_addable_secondVolume (Endpoint.settled_fillDefaults (by decide))
    (by decide) hconfig hstored hr (by rw [hempty]; rfl) hkeys
  refine ⟨reachable_adoptedCluster, e, haddable, ?_⟩
  have hwide := (create wideSubsystem).confined_after (c := scarceCluster) halfSecond rfl
    fun text htext => nomatch htext
  have hsame := hwide.1.trans ((create unplacedSubsystem).confined_after halfSecond rfl hwide.2).1
  have hgroup : adoptedCluster.groups.find? r.definition.resourceGroup
      = some { name := "wide", placeCount := some 5 } := by
    rw [hname, show adoptedCluster.groups = scarceCluster.groups from hsame.groups]
    decide
  have hnodes : adoptedCluster.nodes.length < 5 := by
    rw [show adoptedCluster.nodes = scarceCluster.nodes from hsame.nodes]
    decide
  obtain ⟨_, _, r', hrests⟩ := exists_rests reachable_adoptedCluster haddable.known
  cases hr.symm.trans hrests.resource
  have hgrouped := reachable_adoptedCluster.interrupted.grouped.resources _ r hr
  have habsent := haddable.find?_volumes hr
  obtain ⟨err, t, hadd, -⟩ := hrests.addVolume_unplaced halfSecond habsent haddable.valid
    haddable.unlisted hgrouped hgroup hempty hnodes haddable.known haddable.stopped
  exact ⟨err, t, hadd⟩

end Operation

end FailoverStorage

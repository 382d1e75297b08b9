import FailoverStorage.Proofs.Endpoint.Rereading
import FailoverStorage.Proofs.Gateway.Removal

/-!
# What a failed removal destroys

Removing a volume destroys it first.  Only then is the configuration without it built, stored and
read again, and each of these steps may fail when the data is gone already.

`Operation.deleteVolume_spares_iff` says when a failed removal leaves storage and configurations as
they were, for every cluster, whoever wrote the configurations in it: unless the endpoint is
stranded.  That is an endpoint without a service IP, which a configuration written by hand may
describe.  An export without one cannot be written, so that its configuration goes on naming the
volume that was destroyed (`Operation.deleteVolume_barrenCluster`); a subsystem without one is
written without a port, and cannot be read from then on.
-/

namespace FailoverStorage

open FailoverStorage.Action

/-! ## Storage and configurations -/

namespace Cluster

/-- **A cluster is spared** if its resources and configurations are as they were. -/
def Spares (c t : Cluster) : Prop := t.resources = c.resources ∧ t.configs = c.configs

/-- A resource of a cluster has a volume. -/
def HasVolume (name : String) (number : UInt32) (c : Cluster) : Prop :=
  ∃ r, c.resources.find? name = some r ∧ r.volumes.contains number = true

variable {name : String} {number : UInt32} {c : Cluster}

lemma deleteVolume_of_not_hasVolume (h : ¬ HasVolume name number c) :
    (deleteVolume name number c).2 = c := by
  rcases deleteVolume_cases name number c with ⟨-, err, hdelete⟩ | ⟨r, hr, hdefined, -⟩
  · rw [hdelete]
  · exact absurd ⟨r, hr, hdefined⟩ h

/-- Deleting a volume leaves the definition of the resource. -/
lemma definition_deleteVolume (name : String) (number : UInt32) (c : Cluster) :
    (deployment name (deleteVolume name number c).2).definition
      = (deployment name c).definition := by
  by_cases h : HasVolume name number c
  · obtain ⟨r, hr, hdefined⟩ := h
    rw [deployment_deleteVolume hr hdefined]
  · rw [deleteVolume_of_not_hasVolume h]

/-- A volume that was deleted is not there any more. -/
lemma not_hasVolume_deleteVolume (name : String) (number : UInt32) (c : Cluster) :
    ¬ HasVolume name number (deleteVolume name number c).2 := by
  rcases deleteVolume_cases name number c with ⟨hnone, err, hdelete⟩ | ⟨r, hr, -, hdelete⟩
  · rintro ⟨r, hr, hdefined⟩
    rw [hdelete] at hr
    rw [hnone r hr] at hdefined
    cases hdefined
  · rintro ⟨r', hr', hdefined⟩
    have hremoved := (find?_changeResource c name name (removeVolume number)).trans
      ((if_pos rfl).trans (congrArg (Option.map _) hr))
    rw [hdelete] at hr'
    cases hremoved.symm.trans hr'
    obtain ⟨d, hd⟩ := SortedMap.contains_iff.1 hdefined
    rw [removeVolume, SortedMap.find?_erase, if_pos rfl] at hd
    cases hd

end Cluster

namespace Operation

variable {p : Protocol} {id : p.Identity} {number : UInt32} {c : Cluster} {e : Endpoint p}
  (w : Waiter)

/-! ## Removals that destroy something -/

/-- **An endpoint whose volume can be removed**: it is reported and not in use. -/
structure Removable (id : p.Identity) (number : UInt32) (c : Cluster) (e : Endpoint p) : Prop where
  number : number ≠ Volume.privateNumber
  known : reported id c = .ok (some e)
  stopped : e.status.service ≠ .started

/-- **An endpoint is stranded** if removing a volume fails when it has changed something: without a
service IP the rest of an export cannot be written, and the rest of a subsystem is written where it
was found, but cannot be read. -/
def Stranded (id : p.Identity) (number : UInt32) (c : Cluster) : Prop :=
  ∃ e, Removable id number c e ∧ e.serviceIps = []
    ∧ (p = .nfs ∧ Cluster.HasVolume (Protocol.resourceName id) number c
      ∨ p = .nvmeof ∧ e.configId = Protocol.configId id)

/-- Nothing is changed before an endpoint is known to be removable. -/
lemma deleteVolume_of_not_removable (h : ∀ e, ¬ Removable id number c e) :
    ((gateway w).deleteVolume id number c).2 = c := by
  by_cases hnumber : number = Volume.privateNumber
  · rw [Gateway.deleteVolume, if_pos hnumber]
    rfl
  rw [Gateway.deleteVolume, if_neg hnumber]
  cases hfound : found id c with
  | error err =>
      have hfind : (gateway w).find id c = (.error err, c) := by rw [find_apply, hfound]
      exact congrArg Prod.snd (bind_apply_error hfind _)
  | ok stored? =>
      refine (congrArg Prod.snd (bind_apply_ok (find_eq_ok w hfound) _)).trans ?_
      cases stored? with
      | none => rfl
      | some stored =>
          have hload := load_apply w (p := p) stored (Protocol.resourceName id) c
          cases hread : Gateway.reconstruct p stored
              (Cluster.deployment (Protocol.resourceName id) c) with
          | error err =>
              rw [hread] at hload
              exact congrArg Prod.snd (bind_apply_error hload _)
          | ok e =>
              rw [hread] at hload
              have hreported : reported id c = .ok (some e) := by
                rw [reported, hfound, ok_bind]
                simp only [hread]
                rfl
              have hstarted : e.status.service = .started :=
                Decidable.not_not.1 fun hfree => h e ⟨hnumber, hreported, hfree⟩
              refine (congrArg Prod.snd (bind_apply_ok hload _)).trans ?_
              simp only [if_pos hstarted]
              rfl

/-- The placements that an endpoint has without a volume. -/
abbrev placementsWithout (id : p.Identity) (number : UInt32) (c : Cluster) : List Placement :=
  (Cluster.deployment (Protocol.resourceName id) c).placements.map (Gateway.withoutVolume number)

/-- Only an export needs a service IP for the rest of it to be written. -/
lemma exists_written_iff (id : p.Identity) (number : UInt32) (c : Cluster) (e : Endpoint p) :
    (∃ config, (e.withoutVolume number).toPromoter (placementsWithout id number c) = .ok config)
      ↔ (p = .nfs → e.serviceIps ≠ []) :=
  Endpoint.exists_toPromoter_iff

/-- A removal fails with the volume destroyed if the rest cannot be written. -/
lemma Removable.deleteVolume_eq_error (h : Removable id number c e) {err : Error}
    (herr : (e.withoutVolume number).toPromoter (placementsWithout id number c) = .error err) :
    (gateway w).deleteVolume id number c
      = (.error err, (Cluster.deleteVolume (Protocol.resourceName id) number c).2) := by
  have hstore : (gateway w).store (e.withoutVolume number) (placementsWithout id number c) "update"
      (Cluster.deleteVolume (Protocol.resourceName id) number c).2
      = (.error err, (Cluster.deleteVolume (Protocol.resourceName id) number c).2) := by
    rw [Gateway.store, herr]
    rfl
  rw [deleteVolume_apply w h.known h.stopped h.number]
  exact bind_apply_error hstore _

/-! ## Reading what is left -/

/-- The cluster in which a volume was removed and a configuration was stored. -/
abbrev removed (id : p.Identity) (number : UInt32) (config : PromoterConfig) (c : Cluster) :
    Cluster :=
  (Cluster.ensureConfig config (Cluster.deleteVolume (Protocol.resourceName id) number c).2).2

/-- What is reported was read from the configuration that is found, with what is deployed. -/
lemma exists_ofPromoter_of_reported (h : reported id c = .ok (some e)) :
    ∃ stored b status, found id c = .ok (some stored)
      ∧ Endpoint.ofPromoter p stored.config
        (Cluster.deployment (Protocol.resourceName id) c).definition
        (Cluster.deployment (Protocol.resourceName id) c).volumeDefinitions = .ok b
      ∧ e = { b with status } := by
  obtain ⟨stored, hfound⟩ := exists_found_of_reported h
  obtain ⟨b, hb, heq⟩ := exists_ofPromoter_of_reconstruct (reconstruct_of_reported hfound h)
  exact ⟨stored, b, e.status, hfound, hb, heq⟩

/-- What is found is reported if it can be read. -/
lemma exists_reported_of_ofPromoter {stored : StoredConfig} {b : Endpoint p}
    (hfound : found id c = .ok (some stored))
    (hb : Endpoint.ofPromoter p stored.config
      (Cluster.deployment (Protocol.resourceName id) c).definition
      (Cluster.deployment (Protocol.resourceName id) c).volumeDefinitions = .ok b) :
    ∃ e, reported id c = .ok (some e) := by
  rw [reported, hfound, ok_bind]
  simp only [Gateway.reconstruct, hb]
  exact ⟨_, rfl⟩

/-- **What was read is reported again** once it was written, unless it is a subsystem without a
service IP. -/
lemma Removable.exists_reported (h : Removable id number c e)
    (hsubsystem : p = .nvmeof → e.configId = Protocol.configId id → e.serviceIps ≠ [])
    {config : PromoterConfig} (hconfig : (e.withoutVolume number).toPromoter
      (placementsWithout id number c) = .ok config) :
    ∃ e', reported id (removed id number config c) = .ok (some e') := by
  obtain ⟨stored, b, status, hfound, hb, rfl⟩ := exists_ofPromoter_of_reported h.known
  have hdefinition : (Cluster.deployment (Protocol.resourceName id)
      (removed id number config c)).definition
        = (Cluster.deployment (Protocol.resourceName id) c).definition :=
    Cluster.definition_deleteVolume _ _ _
  by_cases hid : b.configId = Protocol.configId id
  · -- the new configuration takes the place of the old one
    have hstored := stored_ensureConfig hconfig hid
      (Cluster.deleteVolume (Protocol.resourceName id) number c).2
    have hwritten : (b.withoutVolume number).toPromoter (placementsWithout id number c)
        = .ok config := by
      rw [← hconfig]
      exact Endpoint.toPromoter_congr rfl rfl rfl rfl rfl
    refine hstored.exists_reported_iff.2 ?_
    rw [decoded, hdefinition]
    exact Endpoint.exists_ofPromoter_withoutVolume hb number (fun hp => hsubsystem hp hid)
      hwritten _
  · -- the old configuration stays where it was
    have hother : config.path ≠ PromoterConfig.pathOf (Protocol.configId id) := fun hpath => by
      have hwritten := (PromoterConfig.belongs_of_toPromoter hconfig).hasId
      exact hid (hwritten.symm.trans (PromoterConfig.pathOf_inj hpath))
    have hsame : (removed id number config c).configs.find?
        (PromoterConfig.pathOf (Protocol.configId id))
          = c.configs.find? (PromoterConfig.pathOf (Protocol.configId id)) := by
      have hbefore := (Cluster.sameOutside_deleteVolume none (Protocol.resourceName id) number
        c).configs _ (Option.some_ne_none (PromoterConfig.pathOf (Protocol.configId id)))
      rw [Cluster.configs_ensureConfig, SortedMap.find?_insert, if_neg hother.symm, hbefore]
    have hfound' : found id (removed id number config c) = .ok (some stored) := by
      rw [← hfound, found, hsame, found]
    have hread := Endpoint.ofPromoter_resized hb
      (Cluster.deployment (Protocol.resourceName id) (removed id number config c)).volumeDefinitions
    rw [← hdefinition] at hread
    exact exists_reported_of_ofPromoter hfound' hread

/-! ## What failed removals destroy -/

/-- **A stranded endpoint loses something** in a removal that fails. -/
lemma Stranded.exists_deleteVolume (h : Stranded id number c) :
    ∃ err t, (gateway w).deleteVolume id number c = (.error err, t) ∧ ¬ c.Spares t := by
  obtain ⟨e, hremovable, hips, ⟨rfl, hvolume⟩ | ⟨rfl, hid⟩⟩ := h
  · cases hwritten : (e.withoutVolume number).toPromoter (placementsWithout id number c) with
    | ok config => exact absurd hips ((exists_written_iff id number c e).1 ⟨config, hwritten⟩ rfl)
    | error err =>
        refine ⟨err, _, hremovable.deleteVolume_eq_error w hwritten, fun hspares => ?_⟩
        obtain ⟨r, hr, hdefined⟩ := hvolume
        exact Cluster.not_hasVolume_deleteVolume (Protocol.resourceName id) number c
          ⟨r, hspares.1 ▸ hr, hdefined⟩
  · obtain ⟨config, hwritten⟩ := (exists_written_iff id number c e).2 fun h => nomatch h
    have hunread : ∀ definition volumeDefinitions b,
        Endpoint.subsystemOf config definition volumeDefinitions ≠ .ok b := fun _ _ b =>
      Endpoint.subsystemOf_toPromoter_ne_ok (e := e.withoutVolume number) hips hwritten b
    have hstored := stored_ensureConfig (e := e.withoutVolume number) hwritten hid
      (Cluster.deleteVolume (Protocol.resourceName id) number c).2
    have hrun := deleteVolume_eq w hremovable.known hremovable.stopped hremovable.number hwritten
    rw [hstored.reported_eq] at hrun
    cases hread : Gateway.reconstruct .nvmeof (storedAs id config _)
        (Cluster.deployment (Protocol.resourceName id) (removed id number config c)) with
    | ok e' =>
        obtain ⟨b, hb, -⟩ := exists_ofPromoter_of_reconstruct hread
        exact absurd hb (hunread _ _ b)
    | error err =>
        rw [hread] at hrun
        refine ⟨err, _, hrun, fun hspares => ?_⟩
        -- then the text that was found before was the one that cannot be read
        obtain ⟨stored, b, status, hfound, hb, -⟩ := exists_ofPromoter_of_reported hremovable.known
        have hsame : found id (removed id number config c) = found id c := by
          rw [found, found, hspares.2]
        rw [hstored.found_eq, hfound] at hsame
        cases hsame
        exact hunread _ _ b hb

/-- **A failed removal destroys nothing, unless the endpoint is stranded**: resources and
configurations are as they were after every failure exactly if the endpoint has a service IP or can
do without one. -/
theorem deleteVolume_spares_iff (id : p.Identity) (number : UInt32) (c : Cluster) :
    (∀ err t, (gateway w).deleteVolume id number c = (.error err, t) → c.Spares t)
      ↔ ¬ Stranded id number c := by
  constructor
  · intro hspares hstranded
    obtain ⟨err, t, hrun, hloss⟩ := hstranded.exists_deleteVolume w
    exact hloss (hspares err t hrun)
  · intro hstranded err t hrun
    by_cases hremovable : ∃ e, Removable id number c e
    · obtain ⟨e, hremovable⟩ := hremovable
      cases hwritten : (e.withoutVolume number).toPromoter (placementsWithout id number c) with
      | error err' =>
          have hnot : ¬ (p = .nfs → e.serviceIps ≠ []) := fun h => by
            obtain ⟨config, hconfig⟩ := (exists_written_iff id number c e).2 h
            cases hwritten.symm.trans hconfig
          rw [Classical.not_imp, not_not] at hnot
          have hnone : ¬ Cluster.HasVolume (Protocol.resourceName id) number c := fun hvolume =>
            hstranded ⟨e, hremovable, hnot.2, .inl ⟨hnot.1, hvolume⟩⟩
          rw [hremovable.deleteVolume_eq_error w hwritten,
            Cluster.deleteVolume_of_not_hasVolume hnone] at hrun
          cases hrun
          exact ⟨rfl, rfl⟩
      | ok config =>
          obtain ⟨e', he'⟩ := hremovable.exists_reported (fun hp hid hips =>
            hstranded ⟨e, hremovable, hips, .inr ⟨hp, hid⟩⟩) hwritten
          rw [deleteVolume_eq w hremovable.known hremovable.stopped hremovable.number hwritten,
            he'] at hrun
          cases hrun
    · have hsame := deleteVolume_of_not_removable w (not_exists.1 hremovable)
      rw [hrun] at hsame
      subst hsame
      exact ⟨rfl, rfl⟩

/-! ## A configuration written by hand -/

/-- A file server with one volume and without a service IP. -/
def barrenConfig : PromoterConfig :=
  .single "nfs-data" "data"
    [.ofList Agent.nfsServerKind "nfsserver" [],
      Agent.mount "fs_1" "/dev/drbd1001" "/srv/gateway-exports/data/vol1" "ext4"]

/-- A fresh cluster on which somebody deployed the volumes of that file server and stored its
configuration. -/
def barrenCluster : Cluster :=
  (Cluster.ensureResource
      { name := "data", resourceGroup := defaultResourceGroup
        volumes := [Volume.clusterPrivate, { number := 1, sizeKib := 1024 }] } false
      {}).2.storeText "nfs-data" barrenConfig.toToml false

lemma stored_barrenCluster : Stored (p := .nfs) "data" barrenConfig false barrenCluster where
  belongs := PromoterConfig.belongs_single fun a ha => by
    rcases List.mem_cons.1 ha with rfl | ha
    · exact Endpoint.writable_ofList_of_mem (by simp [Endpoint.agentKinds])
        (Endpoint.isWord_of_mem_nameParts _ (by simp [Endpoint.nameParts])) (List.nil_subset _)
    · cases List.mem_singleton.1 ha
      exact Endpoint.writable_mount (by decide +kernel) _ _ _
  text := rfl

/-- **A failed removal destroys a volume**: the export in this cluster is reported without a service
IP, and removing its volume fails when the volume is gone. -/
theorem deleteVolume_barrenCluster : ∃ err t,
    (gateway halfSecond).deleteVolume (p := .nfs) "data" 1 barrenCluster = (.error err, t)
      ∧ ¬ barrenCluster.Spares t := by
  have hstranded : Stranded (p := .nfs) "data" 1 barrenCluster := by
    obtain ⟨e, hknown, hips, hstopped⟩ : ∃ e : Endpoint .nfs,
        reported (p := .nfs) "data" barrenCluster = .ok (some e) ∧ e.serviceIps = []
          ∧ e.status.service = .stopped := by
      rw [stored_barrenCluster.reported_eq]
      exact ⟨_, rfl, rfl, rfl⟩
    refine ⟨e, ⟨by decide, hknown, by rw [hstopped]; decide⟩, hips, .inl ⟨rfl, _, rfl, rfl⟩⟩
  exact hstranded.exists_deleteVolume halfSecond

end Operation

end FailoverStorage

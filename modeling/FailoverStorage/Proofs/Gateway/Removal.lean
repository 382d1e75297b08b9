import FailoverStorage.Proofs.Gateway.Extension
import FailoverStorage.Proofs.Gateway.Legibility

/-!
# Removing volumes

A volume of an endpoint that is reported and not in use can always be deleted
(`Operation.exists_deleteVolume`): what was read has no blanks in its initiators, so it can be
written and read again.
-/

namespace FailoverStorage

open FailoverStorage.Action

/-! ## The storage -/

namespace Cluster

/-- Deleting a volume that may be absent succeeds. -/
lemma orAbsent_deleteVolume (name : String) (number : UInt32) (s : Cluster) :
    (deleteVolume name number).orAbsent s = (.ok (), (deleteVolume name number s).2) := by
  rw [Action.orAbsent, deleteVolume, bind_apply_ok (get_apply s)]
  by_cases hdefined : (s.resources.find? name).any (fun r => r.volumes.contains number) = true
  · simp only [if_pos hdefined]
    rfl
  · simp only [if_neg hdefined]
    rfl

/-- What is deployed after a volume was deleted. -/
lemma deployment_deleteVolume {name : String} {number : UInt32} {c : Cluster}
    {r : ClusterResource} (hr : c.resources.find? name = some r)
    (hdefined : r.volumes.contains number = true) :
    deployment name (deleteVolume name number c).2
      = { deployment name c with
          volumeDefinitions := (removeVolume number r).volumes.values
          placements := (removeVolume number r).placements } := by
  rcases deleteVolume_cases name number c with ⟨hnone, -⟩ | ⟨r', hr', -, hdelete⟩
  · rw [hnone r hr] at hdefined
    cases hdefined
  · cases hr.symm.trans hr'
    have hremoved := (find?_changeResource c name name (removeVolume number)).trans
      ((if_pos rfl).trans (congrArg (Option.map _) hr))
    have hafter : (deleteVolume name number c).2.resources.find? name
        = some (removeVolume number r) := by
      rw [hdelete]
      exact hremoved
    rw [deployment, deployment, hafter, hr, hdelete]
    rfl

end Cluster

/-! ## The endpoint -/

namespace Operation

variable {asked : (p : Protocol) → Endpoint p → Prop} {p : Protocol} {id : p.Identity}
  {c : Cluster} {e : Endpoint p} (w : Waiter)

/-- The configuration that is written for an endpoint is stored for it. -/
lemma stored_ensureConfig {config : PromoterConfig} {placements : List Placement}
    (hconfig : e.toPromoter placements = .ok config) (hid : e.configId = Protocol.configId id)
    (s : Cluster) : Stored id config (((s.configs.find? config.path).map (·.attached)).getD false)
      (Cluster.ensureConfig config s).2 := by
  have hbelongs := PromoterConfig.belongs_of_toPromoter hconfig
  have hname : e.resourceName = Protocol.resourceName id := (Protocol.configId_inj hid).2
  rw [hid, hname] at hbelongs
  exact ⟨hbelongs, hbelongs.find?_ensureConfig s⟩

/-- No initiator of what is reported contains a blank. -/
lemma Rooted.blankFree_of_reported (h : Rooted asked id c) (he : reported id c = .ok (some e)) :
    ∀ iqn ∈ Endpoint.initiators e.settings, Text.IsBlankFree iqn.text := by
  obtain ⟨stored, hfound⟩ := exists_found_of_reported he
  obtain ⟨requested, -, -, hstems⟩ := (h.writtenFor_found hfound).exists_request
  obtain ⟨b, hread, heq⟩ := exists_ofPromoter_of_reconstruct (reconstruct_of_reported hfound he)
  rcases hstems.ofPromoter_cases (fun d hd => h.legible_deployment hd)
    (Cluster.deployment (Protocol.resourceName id) c).volumeDefinitions with
    ⟨hblank, b', hread', hstems⟩ | ⟨-, err, herr⟩
  · cases hread.symm.trans hread'
    rw [heq]
    exact hstems.initiators.symm ▸ hblank
  · cases hread.symm.trans herr

/-- A stored configuration that stems from an endpoint without such blanks can be read. -/
lemma Rooted.exists_reported (h : Rooted asked id c) {config : PromoterConfig} {attached : Bool}
    (hstored : Stored id config attached c) (hstems : config.StemsFrom e)
    (hblank : ∀ iqn ∈ Endpoint.initiators e.settings, Text.IsBlankFree iqn.text) :
    ∃ e', reported id c = .ok (some e') := by
  refine hstored.exists_reported_iff.2 ?_
  rcases hstems.ofPromoter_cases (fun d hd => h.legible_deployment hd)
    (Cluster.deployment (Protocol.resourceName id) c).volumeDefinitions with
    ⟨-, e', he', -⟩ | ⟨hnot, -⟩
  · exact ⟨e', he'⟩
  · exact absurd hblank hnot

/-- Deleting a volume of an endpoint that is not in use comes to removing it first, and then storing
the endpoint without it and reading it. -/
lemma deleteVolume_apply (he : reported id c = .ok (some e)) (hfree : e.status.service ≠ .started)
    {number : UInt32} (hnumber : number ≠ Volume.privateNumber) :
    (gateway w).deleteVolume id number c
      = (do
          (gateway w).store (e.withoutVolume number)
            ((Cluster.deployment (Protocol.resourceName id) c).placements.map
              (Gateway.withoutVolume number)) "update"
          (gateway w).get id) (Cluster.deleteVolume (Protocol.resourceName id) number c).2 := by
  obtain ⟨stored, hfound⟩ := exists_found_of_reported he
  have hremove := inPhase_apply_ok ("failed to delete volume " ++ Text.decimal number.toNat
    ++ " of " ++ Protocol.resourceName id)
      (Cluster.orAbsent_deleteVolume (Protocol.resourceName id) number c)
  rw [Gateway.deleteVolume, if_neg hnumber]
  refine (bind_apply_ok (find_eq_ok w hfound) _).trans ?_
  refine (bind_apply_ok (load_of_reported w hfound he) _).trans ?_
  simp only [if_neg hfree]
  exact bind_apply_ok hremove _

/-- Deleting a volume of an endpoint that is not in use comes to removing it and writing the
endpoint without it. -/
lemma deleteVolume_eq (he : reported id c = .ok (some e)) (hfree : e.status.service ≠ .started)
    {number : UInt32} (hnumber : number ≠ Volume.privateNumber) {config : PromoterConfig}
    (hconfig : (e.withoutVolume number).toPromoter
      ((Cluster.deployment (Protocol.resourceName id) c).placements.map
        (Gateway.withoutVolume number)) = .ok config) :
    (gateway w).deleteVolume id number c
      = (reported id (Cluster.ensureConfig config
            (Cluster.deleteVolume (Protocol.resourceName id) number c).2).2,
          (Cluster.ensureConfig config
            (Cluster.deleteVolume (Protocol.resourceName id) number c).2).2) := by
  set s := (Cluster.deleteVolume (Protocol.resourceName id) number c).2
  have hstore : (gateway w).store (e.withoutVolume number)
      ((Cluster.deployment (Protocol.resourceName id) c).placements.map
        (Gateway.withoutVolume number)) "update" s
      = (.ok (), (Cluster.ensureConfig config s).2) := by
    rw [Gateway.store, hconfig]
    rfl
  rw [deleteVolume_apply w he hfree hnumber, bind_apply_ok hstore]
  exact get_eq_reported w id _

/-- **Deleting a volume of a reported endpoint** that is not in use succeeds. -/
lemma exists_deleteVolume (hc : Cluster.Reachable (fun _ => True) c)
    (he : reported id c = .ok (some e)) (hfree : e.status.service ≠ .started) {number : UInt32}
    (hnumber : number ≠ Volume.privateNumber) :
    ∃ e' t, (gateway w).deleteVolume id number c = (.ok (some e'), t)
      ∧ reported id t = .ok (some e')
      ∧ Cluster.deployment (Protocol.resourceName id) t
        = Cluster.deployment (Protocol.resourceName id)
          (Cluster.deleteVolume (Protocol.resourceName id) number c).2 := by
  have hrooted := hc.reachableBy.rooted.endpoint id
  have hseen := hrooted.seen he
  have hshaped := hseen.shaped.withoutVolume number
  obtain ⟨d, hsettled, -, -, -, -, hsame⟩ := hshaped.exists_settled
  obtain ⟨config, hconfig⟩ := hsettled.exists_toPromoter
    ((Cluster.deployment (Protocol.resourceName id) c).placements.map
      (Gateway.withoutVolume number))
  rw [hsame] at hconfig
  have hrun := deleteVolume_eq w he hfree hnumber hconfig
  set t := (Cluster.ensureConfig config
    (Cluster.deleteVolume (Protocol.resourceName id) number c).2).2
  have hstored : Stored id config _ t := stored_ensureConfig hconfig hseen.hasId _
  have hafter : (deleteVolume id number).after w c = t := congrArg Prod.snd hrun
  obtain ⟨e', he'⟩ := Rooted.exists_reported (e := e)
    (hafter ▸ (hc.operate trivial (deleteVolume id number) w).reachableBy.rooted.endpoint id)
    hstored ⟨e.withoutVolume number, _, ⟨hshaped, rfl, rfl⟩, hconfig⟩
    (hrooted.blankFree_of_reported he)
  exact ⟨e', t, hrun.trans (by rw [he']), he', rfl⟩

end Operation

end FailoverStorage

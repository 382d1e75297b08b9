import FailoverStorage.Proofs.Endpoint.Persistence
import FailoverStorage.Proofs.Gateway.Consistency
import FailoverStorage.Proofs.Gateway.Removal
import FailoverStorage.Proofs.Gateway.Repetition
import FailoverStorage.Proofs.Status

/-!
# Endpoints over their storage

In a run of one protocol, what is reported of an endpoint rests on one resource: its configuration
is stored with the devices of the resource, which has the sizes, the group and the kind of sizes
that are reported (`Operation.exists_rests`).  Conversely whatever rests on a resource is reported
as it is, with the status that the resource shows (`Operation.Rests.reported_eq`).
-/

namespace FailoverStorage

open FailoverStorage.Action

namespace Endpoint

variable {p : Protocol} {e : Endpoint p} {r : ClusterResource}

/-- What storage provides and tells is read back as it was. -/
lemma recovered_of_told (h : Operation.Provides e r) (htold : e.ToldBy r) (status : Status) :
    ({ e.recovered (some r.definition) r.volumes.values with status } : Endpoint p)
      = { e with status } := by
  rw [recovered, map_resized_of_sizes h.sizes, htold.1, htold.2]

end Endpoint

namespace Operation

variable {p : Protocol} {id : p.Identity} {c : Cluster} {e : Endpoint p} {config : PromoterConfig}
  {attached : Bool} {r : ClusterResource}

/-- **An endpoint rests on a resource**: its configuration is stored with the devices of the
resource, which provides and tells all that the endpoint asks for. -/
structure Rests (id : p.Identity) (e : Endpoint p) (config : PromoterConfig) (attached : Bool)
    (r : ClusterResource) (c : Cluster) : Prop where
  settled : e.Settled
  hasId : e.configId = Protocol.configId id
  blankFree : ∀ iqn ∈ Endpoint.initiators e.settings, Text.IsBlankFree iqn.text
  stored : Stored id config attached c
  written : e.toPromoter r.placements = .ok config
  resource : c.resources.find? (Protocol.resourceName id) = some r
  sound : r.Sound (Protocol.resourceName id)
  provides : Provides e r
  told : e.ToldBy r

/-- **What rests on a resource is reported as it is**, with the status that the resource shows. -/
lemma Rests.reported_eq (h : Rests id e config attached r c) : reported id c = .ok (some { e with
    status := .ofPlacements attached (some r.definition)
      (c.groups.find? r.definition.resourceGroup) r.placements }) := by
  rw [reported_eq_recovered h.settled h.blankFree h.stored.found_eq h.written h.resource
    h.provides.recorded, Endpoint.recovered_of_told h.provides h.told]
  rfl

/-- **What is reported rests on a resource**, in every run of one protocol. -/
lemma exists_rests (hc : Cluster.Reachable (· = p) c) (he : reported id c = .ok (some e)) :
    ∃ config attached r, Rests id e config attached r c := by
  obtain ⟨stored, r, hfound, hholds, hid, hread, hr, hdescribes⟩ :=
    describes_of_reported (hc.covered.covers id) he
  obtain ⟨config, hconfig, hcontent⟩ := hdescribes.written
  have hbelongs := PromoterConfig.belongs_of_toPromoter hconfig
  rw [hid, show e.resourceName = Protocol.resourceName id from (Protocol.configId_inj hid).2]
    at hbelongs
  obtain ⟨text, htext, heq⟩ := Option.map_eq_some_iff.1 hholds.stored
  have hstored : Stored id config text.attached c :=
    ⟨hbelongs, by rw [htext, ← hcontent, ← heq]⟩
  -- what is told of the endpoint is what the storage says
  obtain ⟨b, hb, hstatus⟩ := exists_ofPromoter_of_reconstruct hread
  rw [Cluster.deployment, hr] at hb
  have htold := Endpoint.told_of_ofPromoter hb
  have hsizes : ∀ u ∈ e.volumes, Endpoint.sizeOf r.volumes.values u.number = u.sizeKib := by
    rw [hstatus]
    exact fun u hu => htold.sizeOf_eq hu
  exact ⟨config, text.attached, r,
    { settled := hdescribes.settled
      hasId := hid
      blankFree := (hc.reachableBy.rooted.endpoint id).blankFree_of_reported he
      stored := hstored
      written := hconfig
      resource := hr
      sound := hholds.covers.sound r hr
      provides := ⟨hdescribes.recorded, hsizes⟩
      told := by
        rw [hstatus]
        exact ⟨htold.resourceGroup.symm, htold.grossSize.symm⟩ }⟩

/-- The volumes of an endpoint that rests on a resource are defined there with their sizes. -/
lemma Rests.find?_volumes (h : Rests id e config attached r c) {u : Volume} (hu : u ∈ e.volumes) :
    ∃ d, r.volumes.find? u.number = some d ∧ d.sizeKib = u.sizeKib := by
  have hsize := h.provides.sizes u hu
  rw [Endpoint.sizeOf, h.sound.coherent.find?_values] at hsize
  cases hfind : r.volumes.find? u.number with
  | none =>
      rw [hfind] at hsize
      exact absurd hsize.symm (h.settled.sizes u hu)
  | some d =>
      rw [hfind] at hsize
      exact ⟨d, rfl, hsize⟩

/-- What rests on a resource is started if the resource is in use. -/
lemma Rests.started_iff (h : Rests id e config attached r c) (he : reported id c = .ok (some e)) :
    e.status.service = .started ↔ r.placements.any (·.isInUse) = true := by
  have hstatus := congrArg Endpoint.status
    (Option.some.inj (Except.ok.inj (h.reported_eq.symm.trans he)))
  rw [← hstatus]
  exact Status.service_ofPlacements_eq_started_iff attached r.definition _

end Operation

end FailoverStorage

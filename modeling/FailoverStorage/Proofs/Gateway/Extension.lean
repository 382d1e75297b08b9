import FailoverStorage.Proofs.Endpoint.Settings
import FailoverStorage.Proofs.Gateway.Origins

/-!
# What is reported, and extended

Whoever adds a volume reads an endpoint first, and asks for the storage of what was read with one
volume more.

**Reading** (`Operation.Rooted.seen`).  In every run, what is reported of an endpoint has the group
and the kind of sizes of its resource, and no other settings than its definition records.

**Extending** (`Operation.resources_addVolume`).  Between reading and asking nothing happens to the
resource, so it is left as it was, or as ensuring the extended endpoint leaves it.
-/

namespace FailoverStorage.Operation

open FailoverStorage.Action

variable {asked : (p : Protocol) → Endpoint p → Prop} {p : Protocol} {id : p.Identity}
  {c : Cluster} {e e₀ : Endpoint p} (w : Waiter)

/-! ## Reading -/

lemma exists_found_of_reported (he : reported id c = .ok (some e)) :
    ∃ stored, found id c = .ok (some stored) := by
  obtain ⟨stored?, hfound, he⟩ := bind_eq_ok_iff.1 he
  cases stored? with
  | none => cases he
  | some stored => exact ⟨stored, hfound⟩

/-- What is reported is read back of the endpoint whose configuration is stored. -/
lemma Rooted.readBack_of_reported (h : Rooted asked id c) (hshaped : e₀.Shaped)
    {placements : List Placement} {stored : StoredConfig}
    (hconfig : e₀.toPromoter placements = .ok stored.config)
    (hfound : found id c = .ok (some stored)) (he : reported id c = .ok (some e)) :
    e₀.ReadBack (Cluster.deployment (Protocol.resourceName id) c).definition
      (Cluster.deployment (Protocol.resourceName id) c).volumeDefinitions e := by
  obtain ⟨b, hread, heq⟩ := exists_ofPromoter_of_reconstruct (reconstruct_of_reported hfound he)
  rw [heq]
  exact (hshaped.readBack hconfig (fun d hd => h.legible_deployment hd) hread).withStatus _

/-- **What is reported of an endpoint** over the storage that is deployed for it. -/
structure Seen (id : p.Identity) (e : Endpoint p) (c : Cluster) : Prop where
  shaped : e.Shaped
  hasId : e.configId = Protocol.configId id
  compatible : e.CompatibleWith (Cluster.deployment (Protocol.resourceName id) c).definition
  resourceGroup :
    e.resourceGroup = Endpoint.groupOf (Cluster.deployment (Protocol.resourceName id) c).definition
  grossSize : e.grossSize
    = Endpoint.grossSizeOf (Cluster.deployment (Protocol.resourceName id) c).volumeDefinitions

lemma Seen.resourceName (h : Seen id e c) : e.resourceName = Protocol.resourceName id :=
  (Protocol.configId_inj h.hasId).2

/-- **Whatever is reported of a rooted endpoint** is seen. -/
lemma Rooted.seen (h : Rooted asked id c) (he : reported id c = .ok (some e)) : Seen id e c := by
  obtain ⟨stored, hfound⟩ := exists_found_of_reported he
  have hwritten := h.writtenFor_found hfound
  obtain ⟨_, -, -, e₀, placements, hstems₀, hconfig⟩ := hwritten.exists_request
  have hread := h.readBack_of_reported hstems₀.shaped hconfig hfound he
  obtain ⟨requested, -, hid, hstems⟩ :=
    h.asked_reconstruct hwritten (reconstruct_of_reported hfound he)
  exact ⟨hstems.shaped, hstems.configId.trans hid, hread.compatible, hread.resourceGroup,
    hread.grossSize⟩

/-! ## Extending -/

/-- An endpoint with one more volume. -/
def extended (e : Endpoint p) (v : Volume) : Endpoint p :=
  Endpoint.fillDefaults { e with volumes := e.volumes ++ [v] }

lemma resources_store (e : Endpoint p) (placements : List Placement) (verb : String) (c : Cluster) :
    ((gateway w).store e placements verb c).2.resources = c.resources := by
  rw [Gateway.store]
  cases e.toPromoter placements <;> rfl

/-- **Where adding a volume leaves the resources**: as they were, or as ensuring the extended
endpoint leaves them. -/
lemma resources_addVolume (v : Volume) (c : Cluster) :
    ((gateway w).addVolume id v c).2.resources = c.resources
      ∨ ∃ e, reported id c = .ok (some e) ∧ ((gateway w).addVolume id v c).2.resources
        = (Cluster.ensureResource (Gateway.resourceRequest (extended e v)) true c).2.resources := by
  let R (t : Cluster) : Prop := t.resources = c.resources
    ∨ ∃ e, reported id c = .ok (some e) ∧ t.resources
      = (Cluster.ensureResource (Gateway.resourceRequest (extended e v)) true c).2.resources
  have hR : R c := .inl rfl
  refine (?_ : Triple (· = c) ((gateway w).addVolume id v) (fun _ => R) R).state rfl
  refine Triple.bind ((readOnly_ofExcept _).triple hR) fun _ => Triple.of_forall fun _ => ?_
  refine Triple.bind ((readOnly_find w id).triple hR) fun stored? =>
    Triple.of_forall fun hfind => ?_
  cases stored? with
  | none => exact Triple.pure fun s hs => hs ▸ hR
  | some stored =>
      refine Triple.bind ((readOnly_load w stored _).triple hR) fun x =>
        Triple.of_forall fun hload => ?_
      have he := reported_of_load w hfind hload
      refine Triple.bind (Q := fun _ => R) ?_ fun y => Triple.bind
        (Triple.of_state fun s hs => ?_) fun _ => (readOnly_get w id).keeps R
      · rw [Gateway.withVolume]
        split
        · split
          · exact Triple.pure fun s hs => hs ▸ hR
          · exact Triple.throw fun s hs => hs ▸ hR
        split
        · exact Triple.throw fun s hs => hs ▸ hR
        refine Triple.bind ((readOnly_ofExcept _).triple hR) fun _ => Triple.of_forall fun _ => ?_
        refine Triple.bind (Triple.inPhase _ (Triple.of_state (R := R) fun s hs => ?_))
          fun _ => Triple.pure fun _ h => h
        rw [hs]
        exact .inr ⟨x.1, he, rfl⟩
      · show _ ∨ _
        rw [resources_store]
        exact hs

end FailoverStorage.Operation

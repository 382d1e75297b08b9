import FailoverStorage.Proofs.Endpoint.Recovery

/-!
# There and back

An endpoint is written as a configuration, stored as a document, read back, and compared with what
was asked for.  `agreesWith_ofPromoter_iff` says when the comparison succeeds, for all protocols at
once: unless sizes are gross but there is no volume to tell so, and unless an initiator contains a
blank, what comes back agrees with what was written.

Creating an endpoint twice relies on this: the second time the endpoint is read back and must agree
with the request.
-/

namespace FailoverStorage.Endpoint

open Text

variable {p : Protocol}

/-! ## The definitions of an endpoint's own volumes -/

/-- **Volume definitions are those of an endpoint**: its storage volumes in any order, the data
volumes gross if the endpoint asks for that. -/
structure Defines (volumeDefinitions : List VolumeDefinition) (e : Endpoint p) : Prop where
  sizes : (volumeDefinitions.map fun d => (d.number, d.sizeKib)).Perm
    (e.storageVolumes.map fun v => (v.number, v.sizeKib))
  gross : ∀ d ∈ volumeDefinitions, d.number ≠ Volume.privateNumber → d.gross = e.grossSize

variable {e : Endpoint p} {volumeDefinitions : List VolumeDefinition}

lemma Defines.sizeOf_eq (hd : Defines volumeDefinitions e) (h : e.Settled) {v : Volume}
    (hv : v ∈ e.volumes) : sizeOf volumeDefinitions v.number = v.sizeKib := by
  have hpair : ∀ d ∈ volumeDefinitions, d.number = v.number → d.sizeKib = v.sizeKib := by
    intro d hmem hnumber
    have hstored := hd.sizes.mem_iff.1 (List.mem_map_of_mem hmem)
    obtain ⟨w, hw, heq⟩ := List.mem_map.1 hstored
    obtain ⟨hwn, hws⟩ := Prod.mk.inj heq
    have hvw : w = v := List.inj_on_of_nodup_map h.nodup_storageVolumes hw
      (List.mem_cons_of_mem _ hv) (hwn.trans hnumber)
    rw [← hws, hvw]
  have hmem := hd.sizes.mem_iff.2
    (List.mem_map_of_mem (List.mem_cons_of_mem Volume.clusterPrivate hv))
  obtain ⟨d, hd, heq⟩ := List.mem_map.1 hmem
  obtain ⟨hnumber, -⟩ := Prod.mk.inj heq
  rw [sizeOf]
  cases hfind : volumeDefinitions.find? (·.number = v.number) with
  | none =>
      rw [List.find?_eq_none] at hfind
      exact absurd (hfind d hd) (by simpa using hnumber)
  | some d =>
      have hnumber := List.find?_some hfind
      exact hpair d (List.mem_of_find?_eq_some hfind) (by simpa using hnumber)

/-- Only a data volume can tell that sizes are gross. -/
lemma Defines.grossSizeOf_eq (hd : Defines volumeDefinitions e) (h : e.Settled) :
    grossSizeOf volumeDefinitions = e.grossSize ↔ e.grossSize = false ∨ e.volumes ≠ [] := by
  have htrue : grossSizeOf volumeDefinitions = true ↔ e.grossSize = true ∧ e.volumes ≠ [] := by
    simp only [grossSizeOf, List.any_eq_true, Bool.and_eq_true, decide_eq_true_eq]
    constructor
    · rintro ⟨d, hmem, hnumber, hgross⟩
      refine ⟨hd.gross d hmem hnumber ▸ hgross, fun hnil => hnumber ?_⟩
      have hstored := hd.sizes.mem_iff.1 (List.mem_map_of_mem hmem)
      rw [storageVolumes, hnil] at hstored
      simpa [Volume.clusterPrivate] using congrArg Prod.fst (List.mem_singleton.1 hstored)
    · rintro ⟨hgross, hne⟩
      obtain ⟨v, rest, hvolumes⟩ := List.exists_cons_of_ne_nil hne
      have hv : v ∈ e.volumes := hvolumes ▸ List.mem_cons_self
      have hmem := hd.sizes.mem_iff.2
        (List.mem_map_of_mem (List.mem_cons_of_mem Volume.clusterPrivate hv))
      obtain ⟨d, hmem, heq⟩ := List.mem_map.1 hmem
      have hnumber : d.number ≠ Volume.privateNumber := by
        rw [(Prod.mk.inj heq).1]
        exact h.numbers v hv
      exact ⟨d, hmem, hnumber, (hd.gross d hmem hnumber).trans hgross⟩
  cases hgross : e.grossSize <;> cases hread : grossSizeOf volumeDefinitions <;>
    simp_all

/-- A data volume of the same kind of sizes leaves the kind of sizes. -/
lemma grossSizeOf_insert {volumes : SortedMap UInt32 VolumeDefinition} {d : VolumeDefinition}
    (hnumber : d.number ≠ Volume.privateNumber) (hgross : d.gross = grossSizeOf volumes.values)
    (habsent : volumes.find? d.number = none) :
    grossSizeOf (volumes.insert d.number d).values = grossSizeOf volumes.values := by
  rw [Bool.eq_iff_iff]
  simp only [grossSizeOf, List.any_eq_true, Bool.and_eq_true, decide_eq_true_eq,
    SortedMap.mem_values_insert habsent]
  constructor
  · rintro ⟨x, rfl | hx, hdata, hx'⟩
    · rw [hgross, grossSizeOf, List.any_eq_true] at hx'
      simpa using hx'
    · exact ⟨x, hx, hdata, hx'⟩
  · rintro ⟨x, hx, hdata, hx'⟩
    exact ⟨x, .inr hx, hdata, hx'⟩

/-! ## Comparison -/

/-- Volumes that are defined with their sizes keep them. -/
lemma map_resized_of_sizes
    (hsizes : ∀ v ∈ e.volumes, sizeOf volumeDefinitions v.number = v.sizeKib) :
    e.volumes.map (resized volumeDefinitions) = e.volumes := by
  have hsame : ∀ v ∈ e.volumes, resized volumeDefinitions v = v := fun v hv => by
    rw [resized, hsizes v hv]
  rw [List.map_congr_left hsame, List.map_id']

/-- **What is read back with the same sizes** agrees with the endpoint if the group and the kind of
sizes are the same. -/
lemma agreesWith_recovered_of_sizes (definition : Option ResourceDefinition)
    (hsizes : ∀ v ∈ e.volumes, sizeOf volumeDefinitions v.number = v.sizeKib) (status : Status) :
    ({ e.recovered definition volumeDefinitions with status } : Endpoint p).agreesWith e = true
      ↔ groupOf definition = e.resourceGroup ∧ grossSizeOf volumeDefinitions = e.grossSize := by
  rw [agreesWith, decide_eq_true_eq, recovered, map_resized_of_sizes hsizes]
  constructor
  · intro heq
    exact ⟨congrArg Endpoint.resourceGroup heq, congrArg Endpoint.grossSize heq⟩
  · rintro ⟨hgroup, hgross⟩
    rw [hgroup, hgross]

/-- What is read back agrees with the endpoint in everything but the kind of sizes, of which only
the volumes tell. -/
lemma agreesWith_recovered_iff (h : e.Settled) (hd : Defines volumeDefinitions e)
    {definition : ResourceDefinition} (hgroup : definition.resourceGroup = e.resourceGroup) :
    (e.recovered (some definition) volumeDefinitions).agreesWith e = true
      ↔ e.grossSize = false ∨ e.volumes ≠ [] := by
  have hgroupOf : groupOf (some definition) = e.resourceGroup := by
    rw [groupOf_some (hgroup ▸ h.resourceGroup), hgroup]
  rw [← hd.grossSizeOf_eq h]
  exact (agreesWith_recovered_of_sizes (some definition) (fun _ hv => hd.sizeOf_eq h hv) {}).trans
    (and_iff_right hgroupOf)

/-- **Round trip.**  The configuration of a completed and checked endpoint is stored and read back
as it was.  An endpoint that agrees with the original comes of it exactly if the sizes are not gross
or there is a volume, and if no initiator contains a blank. -/
theorem agreesWith_ofPromoter_iff {d : Endpoint p} (hvalid : d.fillDefaults.validate = .ok ())
    (placements : List Placement) {definition : ResourceDefinition}
    (hgroup : definition.resourceGroup = d.fillDefaults.resourceGroup)
    (hproperties : ∀ key value, d.fillDefaults.properties.find? key = some value →
      definition.properties.find? key = some value)
    {volumeDefinitions : List VolumeDefinition}
    (hd : Defines volumeDefinitions d.fillDefaults) :
    ∃ c c', d.fillDefaults.toPromoter placements = .ok c
      ∧ PromoterConfig.ofToml c.toToml = .ok c'
      ∧ ((∃ b, ofPromoter p c' (some definition) volumeDefinitions = .ok b
          ∧ b.agreesWith d.fillDefaults = true)
        ↔ (d.fillDefaults.grossSize = false ∨ d.fillDefaults.volumes ≠ [])
          ∧ ∀ iqn ∈ initiators d.fillDefaults.settings, IsBlankFree iqn.text) := by
  have hsettled := settled_fillDefaults hvalid
  obtain ⟨c, hc⟩ := hsettled.exists_toPromoter placements
  refine ⟨c, c, hc, PromoterConfig.ofToml_toToml (writable_of_mem_agents hc), ?_⟩
  by_cases hblank : ∀ iqn ∈ initiators d.fillDefaults.settings, IsBlankFree iqn.text
  · rw [ofPromoter_eq_recovered hsettled hblank hc hproperties volumeDefinitions]
    have hiff := agreesWith_recovered_iff hsettled hd hgroup
    constructor
    · rintro ⟨b, hb, hagrees⟩
      cases hb
      exact ⟨hiff.1 hagrees, hblank⟩
    · rintro ⟨hgross, -⟩
      exact ⟨_, rfl, hiff.2 hgross⟩
  · obtain ⟨err, herr⟩ := ofPromoter_eq_error hsettled hblank hc (some definition)
      volumeDefinitions
    rw [herr]
    constructor
    · rintro ⟨b, hb, -⟩
      cases hb
    · rintro ⟨-, h⟩
      exact absurd h hblank

/-! ## One export -/

/-- An export of one volume that leaves everything else open. -/
def plainExport : Endpoint .nfs :=
  { identity := "data"
    serviceIps := [⟨.v4 10 0 0 2, 24, by decide⟩]
    settings := ({} : NfsSettings)
    volumes := [{ number := 1, sizeKib := 1024 }] }

/-- The definition of its resource. -/
def plainDefinition : ResourceDefinition :=
  { name := "data", resourceGroup := defaultResourceGroup
    properties := plainExport.fillDefaults.properties }

/-- The definitions of its volumes, not in order. -/
def plainVolumeDefinitions : List VolumeDefinition :=
  [{ number := 1, sizeKib := 1024 }, { number := 0, sizeKib := 65536 }]

/-- The export comes back from its configuration. -/
theorem agreesWith_plainExport : ∃ c c' b, plainExport.fillDefaults.toPromoter [] = .ok c
    ∧ PromoterConfig.ofToml c.toToml = .ok c'
    ∧ ofPromoter .nfs c' (some plainDefinition) plainVolumeDefinitions = .ok b
    ∧ b.agreesWith plainExport.fillDefaults = true := by
  have hdefines : Defines plainVolumeDefinitions plainExport.fillDefaults :=
    { sizes := List.Perm.swap _ _ _
      gross := by decide }
  have hgroup : plainDefinition.resourceGroup = plainExport.fillDefaults.resourceGroup := rfl
  obtain ⟨c, c', hc, hc', hiff⟩ := agreesWith_ofPromoter_iff (d := plainExport)
    (by decide) [] hgroup (fun _ _ h => h) hdefines
  obtain ⟨b, hb, hagrees⟩ := hiff.2 ⟨.inl rfl, fun _ hiqn => nomatch hiqn⟩
  exact ⟨c, c', b, hc, hc', hb, hagrees⟩

end FailoverStorage.Endpoint

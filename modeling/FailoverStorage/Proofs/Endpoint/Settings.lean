import FailoverStorage.Proofs.Endpoint.Legibility

/-!
# Where settings are kept

What an endpoint is told by its configuration has two carriers at most.  Agents carry everything but
the sizes of the volumes, the group and the kind of sizes.  The path and the networks of an export
are carried by the agents of its volumes only, so they are recorded as properties of the resource
definition, too; what is recorded there is read before what the agents say.

So settings are read back if the definition records them, or if there is a volume and the definition
records nothing else (`Endpoint.ReadBack`).
-/

namespace FailoverStorage.Endpoint

open Text Agent

variable {p : Protocol} {e : Endpoint p} {definition : Option ResourceDefinition}
  {volumeDefinitions : List VolumeDefinition} {placements : List Placement} {c : PromoterConfig}

/-! ## Records -/

/-- **A definition records the settings of an endpoint** as far as they are kept as properties. -/
def RecordedIn (e : Endpoint p) (definition : Option ResourceDefinition) : Prop :=
  ∀ key value, e.properties.find? key = some value → recorded definition key = some value

/-- A definition records no other settings than those of an endpoint. -/
def CompatibleWith (e : Endpoint p) (definition : Option ResourceDefinition) : Prop :=
  ∀ key value, e.properties.find? key = some value →
    ∀ other, recorded definition key = some other → other = value

lemma RecordedIn.compatibleWith (h : e.RecordedIn definition) : e.CompatibleWith definition := by
  intro key value hvalue other hother
  rw [h key value hvalue] at hother
  exact (Option.some.inj hother).symm

/-- What is recorded depends on the settings only. -/
lemma recordedIn_congr {d : Endpoint p} (h : d.settings = e.settings) :
    d.RecordedIn definition ↔ e.RecordedIn definition := by
  rw [RecordedIn, RecordedIn, properties_congr h]

lemma compatibleWith_congr {d : Endpoint p} (h : d.settings = e.settings) :
    d.CompatibleWith definition ↔ e.CompatibleWith definition := by
  rw [CompatibleWith, CompatibleWith, properties_congr h]

/-! ## Reading back -/

/-- **What is read back of an endpoint**: its identity and addresses, its volumes with the sizes
that are deployed, and the group and the kind of sizes that are deployed.  Its settings are read
back if nothing else is recorded and they are recorded or there is a volume to carry them; in any
case nothing else is recorded than what was read. -/
structure ReadBack (e : Endpoint p) (definition : Option ResourceDefinition)
    (volumeDefinitions : List VolumeDefinition) (b : Endpoint p) : Prop where
  identity : b.identity = e.identity
  serviceIps : b.serviceIps = e.serviceIps
  volumes : b.volumes = e.volumes.map (resized volumeDefinitions)
  resourceGroup : b.resourceGroup = groupOf definition
  grossSize : b.grossSize = grossSizeOf volumeDefinitions
  settings : e.CompatibleWith definition → e.RecordedIn definition ∨ e.volumes ≠ [] →
    b.settings = e.settings
  compatible : b.CompatibleWith definition

/-- A status is not read back. -/
lemma ReadBack.withStatus {b : Endpoint p} (h : e.ReadBack definition volumeDefinitions b)
    (status : Status) : e.ReadBack definition volumeDefinitions { b with status } := by
  obtain ⟨hidentity, hips, hvolumes, hgroup, hgross, hsettings, hcompatible⟩ := h
  refine ⟨hidentity, hips, hvolumes, hgroup, hgross, hsettings, fun key value hvalue => ?_⟩
  have hsame : ({ b with status } : Endpoint p).properties = b.properties := properties_congr rfl
  exact hcompatible key value (hsame ▸ hvalue)

/-- An endpoint without properties is read back with its settings. -/
lemma readBack_of_properties_eq_empty {b : Endpoint p} (hproperties : e.properties = .empty)
    (h : b = e.recovered definition volumeDefinitions) :
    e.ReadBack definition volumeDefinitions b := by
  subst h
  refine ⟨rfl, rfl, rfl, rfl, rfl, fun _ _ => rfl, fun key value hvalue => ?_⟩
  rw [show (e.recovered definition volumeDefinitions).properties = e.properties from
    properties_congr rfl, hproperties] at hvalue
  cases hvalue

section

variable {e : Endpoint .nfs}

/-- The path of an export is read back from its record or from the agents of a volume. -/
lemma exportPathOf_eq (h : e.Settled) (hcompatible : e.CompatibleWith definition)
    (hcarried : e.RecordedIn definition ∨ e.volumes ≠ []) :
    exportPathOf e.identity (recorded definition exportPathProperty)
        (e.volumes.flatMap (exportAgents e.identity e.settings))
        (e.volumes.map (resized volumeDefinitions))
      = .ok (e.settings : NfsSettings).exportPath := by
  cases hrecorded : recorded definition exportPathProperty with
  | some path => exact congrArg Except.ok (hcompatible _ _ e.find?_exportPath path hrecorded)
  | none =>
      rcases hcarried with hrecords | hvolumes
      · rw [hrecords _ _ e.find?_exportPath] at hrecorded
        cases hrecorded
      · exact (exportPathOf_exports h.allowedIps_ne_nil _ _).trans
          (congrArg Except.ok (if_neg hvolumes))

/-- The networks of an export are read back from their record or from the agents of a volume. -/
lemma allowedIpsOf_eq (h : e.Settled) (hcompatible : e.CompatibleWith definition)
    (hcarried : e.RecordedIn definition ∨ e.volumes ≠ []) :
    allowedIpsOf (recorded definition allowedIpsProperty)
        (e.volumes.flatMap (exportAgents e.identity e.settings))
        (e.volumes.map (resized volumeDefinitions))
      = .ok (e.settings : NfsSettings).allowedIps := by
  cases hrecorded : recorded definition allowedIpsProperty with
  | some text =>
      rw [hcompatible _ _ e.find?_allowedIps text hrecorded]
      exact allowedIpsOf_texts h.allowedIps_ne_nil _ _
  | none =>
      rcases hcarried with hrecords | hvolumes
      · rw [hrecords _ _ e.find?_allowedIps] at hrecorded
        cases hrecorded
      · exact (allowedIpsOf_exports h.allowedIps_ne_nil h.ascending.nodup _).trans
          (congrArg Except.ok (if_neg hvolumes))

/-- An export is read back with what is recorded, or else with what its agents say. -/
lemma readBack_exportOf (h : e.Settled) (hc : e.toPromoter placements = .ok c)
    (hlegible : ∀ d, definition = some d → LegibleProperties d.properties) {b : Endpoint .nfs}
    (hb : exportOf c definition volumeDefinitions = .ok b) :
    e.ReadBack definition volumeDefinitions b := by
  obtain ⟨path, hpath, -⟩ := exists_exportPathOf h hlegible volumeDefinitions
  obtain ⟨ips, hips, -⟩ := exists_allowedIpsOf h hlegible volumeDefinitions
  rw [exportOf_toPromoter_eq h hc hpath hips] at hb
  cases hb
  refine ⟨rfl, rfl, rfl, rfl, rfl, ?_, ?_⟩
  · intro hcompatible hcarried
    rw [exportPathOf_eq h hcompatible hcarried] at hpath
    rw [allowedIpsOf_eq h hcompatible hcarried] at hips
    cases hpath
    cases hips
    rfl
  · intro key value hvalue other hother
    rcases find?_properties_nfs.1 hvalue with ⟨rfl, rfl⟩ | ⟨rfl, rfl⟩
    · rw [hother] at hpath
      exact Except.ok.inj hpath
    · obtain ⟨d, hd, htext⟩ := Option.bind_eq_some_iff.1 hother
      obtain ⟨ips', hne, rfl⟩ := (hlegible d hd).networks other htext
      rw [hother, allowedIpsOf_texts hne] at hips
      rw [Except.ok.inj hips]

end

/-- **What is read of the configuration of a settled endpoint** is the endpoint, read back. -/
lemma Settled.readBack (h : e.Settled) (hc : e.toPromoter placements = .ok c)
    (hlegible : ∀ d, definition = some d → LegibleProperties d.properties) {b : Endpoint p}
    (hb : ofPromoter p c definition volumeDefinitions = .ok b) :
    e.ReadBack definition volumeDefinitions b := by
  by_cases hblank : ∀ iqn ∈ initiators e.settings, IsBlankFree iqn.text
  · cases p with
    | iscsi =>
        refine readBack_of_properties_eq_empty rfl ?_
        rw [ofPromoter, targetOf_toPromoter h hc, readInitiators_eq_ok hblank] at hb
        exact (Except.ok.inj hb).symm
    | nvmeof =>
        refine readBack_of_properties_eq_empty rfl ?_
        rw [ofPromoter, subsystemOf_toPromoter h hc] at hb
        exact (Except.ok.inj hb).symm
    | nfs => exact readBack_exportOf h hc hlegible hb
  · obtain ⟨err, herr⟩ := ofPromoter_eq_error h hblank hc definition volumeDefinitions
    cases hb.symm.trans herr

/-- **Sizes and the group do not matter** for what is read back. -/
lemma Shaped.readBack (h : e.Shaped) (hc : e.toPromoter placements = .ok c)
    (hlegible : ∀ d, definition = some d → LegibleProperties d.properties) {b : Endpoint p}
    (hb : ofPromoter p c definition volumeDefinitions = .ok b) :
    e.ReadBack definition volumeDefinitions b := by
  obtain ⟨d, hsettled, hidentity, hips, hsettings, hvolumes, hsame⟩ := h.exists_settled
  have hread := hsettled.readBack ((hsame placements).trans hc) hlegible hb
  refine ⟨hread.identity.trans hidentity, hread.serviceIps.trans hips, ?_, hread.resourceGroup,
    hread.grossSize, fun hcompatible hcarried => ?_, hread.compatible⟩
  · rw [hread.volumes, hvolumes, List.map_map]
    rfl
  · refine (hread.settings ((compatibleWith_congr hsettings).2 hcompatible) ?_).trans hsettings
    refine hcarried.imp (recordedIn_congr hsettings).2 fun hne hnil => hne ?_
    rwa [hvolumes, List.map_eq_nil_iff] at hnil

end FailoverStorage.Endpoint

import FailoverStorage.Proofs.Endpoint.Rereading

/-!
# Writing what was read

Adding and removing volumes writes the configuration of an endpoint that was read, in place of the
one it was read from.  Whoever wrote that one, the endpoint is read from the new one as it was, but
for four things (`Endpoint.exists_persisted_iff`) that the check of a request rules out
(`Endpoint.isKept_of_validate`).

* An export without a service IP is not written at all.
* A subsystem without a service IP is written without a port, and cannot be read.
* The password of a target that has no user name is not written.
* Where the first volume of an export stands there twice, and the networks are not recorded in the
  definition, they are read off the agents of both.
-/

namespace FailoverStorage.Endpoint

open Text

variable {p : Protocol} {c d : PromoterConfig} {definition : Option ResourceDefinition}
  {volumeDefinitions : List VolumeDefinition} {placements : List Placement}

/-! ## What is told by the storage -/

/-- Volumes that were read have the sizes and the file systems that they are read with. -/
lemma Told.volumesOf_volumeKeys {e : Endpoint p} (h : e.Told definition volumeDefinitions)
    (hordered : e.Ordered) : e.volumes.map (resized volumeDefinitions) = e.volumes
      ∧ volumesOf e.volumeKeys volumeDefinitions = e.volumes := by
  obtain ⟨numbers, hfilled, hvolumes⟩ := h.volumes
  have hread : ∀ v ∈ e.volumes, fillVolume p v = v ∧ resized volumeDefinitions v = v := by
    intro v hv
    rw [hvolumes] at hv
    obtain ⟨k, hk, rfl⟩ := List.mem_map.1 ((mem_sortOn _).1 hv)
    exact ⟨hfilled k (List.mem_filter.1 hk).1 _, rfl⟩
  have hsizes : e.volumes.map (resized volumeDefinitions) = e.volumes :=
    (List.map_congr_left fun v hv => (hread v hv).2).trans (List.map_id' _)
  have hfillings : e.volumes.map (fillVolume p) = e.volumes :=
    (List.map_congr_left fun v hv => (hread v hv).1).trans (List.map_id' _)
  refine ⟨hsizes, ?_⟩
  rw [hordered.volumesOf_volumeKeys, hfillings, hsizes]

/-- Volumes that were read have the sizes of their definitions. -/
lemma Told.sizeOf_eq {e : Endpoint p} (h : e.Told definition volumeDefinitions) {v : Volume}
    (hv : v ∈ e.volumes) : sizeOf volumeDefinitions v.number = v.sizeKib := by
  obtain ⟨numbers, -, hvolumes⟩ := h.volumes
  rw [hvolumes] at hv
  obtain ⟨k, -, rfl⟩ := List.mem_map.1 ((mem_sortOn _).1 hv)
  rfl

/-- What was read is read again, but for the status. -/
lemma Told.reread_eq {e : Endpoint p} (h : e.Told definition volumeDefinitions)
    (hordered : e.Ordered) : e.reread definition volumeDefinitions = { e with status := {} } := by
  rw [reread, recovered, (h.volumesOf_volumeKeys hordered).2, ← h.resourceGroup, ← h.grossSize]

/-- What was read again but for settings and status agrees if the settings do. -/
lemma exists_agreesWith_iff {e : Endpoint p} {settings : p.Settings}
    {result : Except Error (Endpoint p)} (h : result = .ok { e with status := {}, settings }) :
    (∃ b, result = .ok b ∧ b.agreesWith e = true) ↔ settings = e.settings := by
  subst h
  constructor
  · rintro ⟨b, hb, hagrees⟩
    cases hb
    rw [agreesWith, decide_eq_true_eq] at hagrees
    exact congrArg Endpoint.settings hagrees
  · rintro rfl
    refine ⟨_, rfl, ?_⟩
    rw [agreesWith, decide_eq_true_eq]

/-! ## Protocols -/

/-- **What an endpoint needs so that it is kept when it is written**: a target with a password has a
user name, a subsystem has a service IP, and the first volume of an export stands there once, unless
the definition records its networks. -/
def IsKept : {p : Protocol} → Endpoint p → Option ResourceDefinition → Prop
  | .iscsi, e, _ =>
    (e.settings : IscsiSettings).username = "" → (e.settings : IscsiSettings).password = ""
  | .nfs, e, definition =>
    recorded definition allowedIpsProperty = none →
      ∀ v rest, e.volumes = v :: rest → v.number ∉ rest.map (·.number)
  | .nvmeof, e, _ => e.serviceIps ≠ []

lemma targetOf_isKept_iff {e : Endpoint .iscsi}
    (h : targetOf c definition volumeDefinitions = .ok e) (hd : e.toPromoter placements = .ok d) :
    (∃ b, targetOf d definition volumeDefinitions = .ok b ∧ b.agreesWith e = true)
      ↔ e.IsKept definition := by
  obtain ⟨htold, hblank, -⟩ := exists_of_targetOf_eq_ok h
  have hread : targetOf d definition volumeDefinitions = .ok { e with
      status := {}
      settings := ({ (e.settings : IscsiSettings) with
        password := if (e.settings : IscsiSettings).username = "" then ""
          else (e.settings : IscsiSettings).password } : IscsiSettings) } := by
    rw [targetOf_toPromoter_eq hd, readInitiators_eq_ok hblank,
      htold.reread_eq (ordered_of_ofPromoter (p := .iscsi) h)]
    rfl
  rw [exists_agreesWith_iff hread, IsKept]
  constructor
  · intro heq husername
    have hpassword := congrArg IscsiSettings.password heq
    simp only [husername, if_true] at hpassword
    exact hpassword.symm
  · intro hpassword
    split
    · rename_i husername
      rw [← hpassword husername]
      rfl
    · rfl

/-- The path of an export is read again as it was. -/
lemma exportPathOf_reread {e : Endpoint .nfs} {exports : List Agent}
    (h : exportPathOf e.identity (recorded definition exportPathProperty) exports e.volumes
      = .ok (e.settings : NfsSettings).exportPath)
    (hsizes : e.volumes.map (resized volumeDefinitions) = e.volumes)
    (hne : (e.settings : NfsSettings).allowedIps ≠ []) :
    exportPathOf e.identity (recorded definition exportPathProperty)
        (e.volumes.flatMap (exportAgents e.identity e.settings)) e.volumes
      = .ok (e.settings : NfsSettings).exportPath := by
  cases hrecord : recorded definition exportPathProperty with
  | some path =>
      rw [hrecord] at h
      exact h
  | none =>
      have hread : exportPathOf e.identity none
          (e.volumes.flatMap (exportAgents e.identity e.settings))
          (e.volumes.map (resized volumeDefinitions))
            = .ok (if e.volumes = [] then defaultExportPath e.identity
              else (e.settings : NfsSettings).exportPath) :=
        exportPathOf_exports hne e.volumes volumeDefinitions
      rw [hsizes] at hread
      rw [hread]
      split
      · rename_i hnone
        rw [hrecord, hnone] at h
        cases exports <;> exact h
      · rfl

/-- The networks of an export are read again, from each volume that has the number of the first. -/
lemma exists_allowedIpsOf_reread {e : Endpoint .nfs} {exports : List Agent}
    (h : allowedIpsOf (recorded definition allowedIpsProperty) exports e.volumes
      = .ok (e.settings : NfsSettings).allowedIps)
    (hsizes : e.volumes.map (resized volumeDefinitions) = e.volumes) :
    ∃ ips, allowedIpsOf (recorded definition allowedIpsProperty)
        (e.volumes.flatMap (exportAgents e.identity e.settings)) e.volumes = .ok ips
      ∧ (ips = (e.settings : NfsSettings).allowedIps ↔ e.IsKept definition) := by
  have hne := ne_nil_of_allowedIpsOf_eq_ok h
  rw [IsKept]
  cases hrecord : recorded definition allowedIpsProperty with
  | some text =>
      rw [hrecord] at h
      exact ⟨_, h, by simp⟩
  | none =>
      cases hvolumes : e.volumes with
      | nil =>
          rw [hrecord, hvolumes] at h
          exact ⟨_, h, by simp⟩
      | cons v rest =>
          have hread : allowedIpsOf none ((v :: rest).flatMap (exportAgents e.identity e.settings))
              ((v :: rest).map (resized volumeDefinitions))
                = .ok (((v :: rest).filter (·.number = v.number)).flatMap fun _ =>
                  (e.settings : NfsSettings).allowedIps) :=
            allowedIpsOf_exports_cons hne v rest volumeDefinitions
          rw [← hvolumes, hsizes, hvolumes] at hread
          refine ⟨_, hread, ?_⟩
          have hself : (v :: rest).filter (·.number = v.number)
              = v :: rest.filter (·.number = v.number) :=
            List.filter_cons_of_pos (decide_eq_true rfl)
          rw [hself, List.flatMap_cons]
          simp [hne]

lemma exportOf_isKept_iff {e : Endpoint .nfs}
    (h : exportOf c definition volumeDefinitions = .ok e) (hd : e.toPromoter placements = .ok d) :
    (∃ b, exportOf d definition volumeDefinitions = .ok b ∧ b.agreesWith e = true)
      ↔ e.IsKept definition := by
  obtain ⟨htold, ⟨exports, hpath, hnetworks⟩, -⟩ := exists_of_exportOf_eq_ok h
  have hordered : e.Ordered := ordered_of_ofPromoter (p := .nfs) h
  obtain ⟨hsizes, hvolumes⟩ := htold.volumesOf_volumeKeys hordered
  obtain ⟨ips, hips, hiff⟩ := exists_allowedIpsOf_reread hnetworks hsizes
  have hpath' : exportPathOf e.identity (recorded definition exportPathProperty)
      (e.volumes.flatMap (exportAgents e.identity e.settings))
      (volumesOf e.volumeKeys volumeDefinitions) = .ok (e.settings : NfsSettings).exportPath := by
    rw [hvolumes]
    exact exportPathOf_reread hpath hsizes (ne_nil_of_allowedIpsOf_eq_ok hnetworks)
  have hnetworks' : allowedIpsOf (recorded definition allowedIpsProperty)
      (e.volumes.flatMap (exportAgents e.identity e.settings))
      (volumesOf e.volumeKeys volumeDefinitions) = .ok ips := by
    rw [hvolumes]
    exact hips
  have hread := exportOf_toPromoter_reread hd hpath' hnetworks'
  rw [htold.reread_eq hordered] at hread
  refine (exists_agreesWith_iff (p := .nfs) hread).trans (Iff.trans ?_ hiff)
  constructor
  · intro heq
    exact congrArg NfsSettings.allowedIps heq
  · rintro rfl
    rfl

lemma subsystemOf_isKept_iff {e : Endpoint .nvmeof}
    (h : subsystemOf c definition volumeDefinitions = .ok e)
    (hd : e.toPromoter placements = .ok d) :
    (∃ b, subsystemOf d definition volumeDefinitions = .ok b ∧ b.agreesWith e = true)
      ↔ e.IsKept definition := by
  obtain ⟨htold, -, -⟩ := exists_of_subsystemOf_eq_ok h
  rw [IsKept]
  cases hips : e.serviceIps with
  | nil =>
      refine iff_of_false (fun ⟨b, hb, _⟩ => ?_) (not_not_intro rfl)
      exact subsystemOf_toPromoter_ne_ok hips hd b hb
  | cons ip ips =>
      have hread := subsystemOf_toPromoter_reread hips hd definition volumeDefinitions
      rw [htold.reread_eq (ordered_of_ofPromoter (p := .nvmeof) h)] at hread
      exact iff_of_true ((exists_agreesWith_iff hread).2 rfl) (List.cons_ne_nil ip ips)

/-! ## All protocols -/

/-- **An endpoint that was read is written so that it is read again** from a configuration of the
same id and the same resource, whatever the placements, exactly if it is kept and, for an export,
has a service IP. -/
theorem exists_persisted_iff {e : Endpoint p}
    (h : ofPromoter p c definition volumeDefinitions = .ok e) (placements : List Placement) :
    (∃ d, e.toPromoter placements = .ok d ∧ d.id = c.id
        ∧ (∃ name, c.resources.keys = [name] ∧ d.resources.keys = [name])
        ∧ ∃ b, ofPromoter p d definition volumeDefinitions = .ok b ∧ b.agreesWith e = true)
      ↔ (p = .nfs → e.serviceIps ≠ []) ∧ e.IsKept definition := by
  obtain ⟨hid, r, hresource⟩ := managed_of_ofPromoter h
  have hkeys : c.resources.keys = [e.resourceName] := by
    rw [PromoterConfig.resource] at hresource
    split at hresource
    · rename_i entry hentries
      rw [SortedMap.keys, hentries, Except.ok.inj hresource]
      rfl
    · cases hresource
    · cases hresource
  have hread : ∀ d, e.toPromoter placements = .ok d →
      ((∃ b, ofPromoter p d definition volumeDefinitions = .ok b ∧ b.agreesWith e = true)
        ↔ e.IsKept definition) := by
    cases p with
    | iscsi => exact fun d hd => targetOf_isKept_iff h hd
    | nfs => exact fun d hd => exportOf_isKept_iff h hd
    | nvmeof => exact fun d hd => subsystemOf_isKept_iff h hd
  have hwritten : (∃ d, e.toPromoter placements = .ok d) ↔ (p = .nfs → e.serviceIps ≠ []) :=
    exists_toPromoter_iff
  rw [← hwritten]
  constructor
  · rintro ⟨d, hd, -, -, hb⟩
    exact ⟨⟨d, hd⟩, (hread d hd).1 hb⟩
  · rintro ⟨⟨d, hd⟩, hkept⟩
    obtain ⟨service, -, rfl⟩ := toPromoter_eq_ok_iff.1 hd
    exact ⟨_, hd, hid, ⟨_, hkeys, rfl⟩, (hread _ hd).2 hkept⟩

/-- The configuration of a target whose units stand out of order, and one of them twice. -/
def disorderedTarget : PromoterConfig :=
  .single "iscsi-data" "data"
    [.ofList Agent.logicalUnitKind "lu7" [("lun", "7")],
      .ofList Agent.iscsiTargetKind "target" [("iqn", "iqn.2020-01.com.example:data")],
      .ofList Agent.logicalUnitKind "lu2" [("lun", "2")],
      .ofList Agent.logicalUnitKind "lu7" [("lun", "7")]]

theorem exists_persisted_disorderedTarget :
    ∃ e, ofPromoter .iscsi disorderedTarget none [] = .ok e ∧
      ∀ placements, ∃ d, e.toPromoter placements = .ok d ∧ d.id = disorderedTarget.id
        ∧ (∃ name, disorderedTarget.resources.keys = [name] ∧ d.resources.keys = [name])
        ∧ ∃ b, ofPromoter .iscsi d none [] = .ok b ∧ b.agreesWith e = true := by
  obtain ⟨e, he, hpassword⟩ : ∃ e : Endpoint .iscsi,
      ofPromoter .iscsi disorderedTarget none [] = .ok e
        ∧ (e.settings : IscsiSettings).password = "" := by
    have hreads : (ofPromoter .iscsi disorderedTarget none []).toOption.map
        (fun e => (e.settings : IscsiSettings).password) = some "" := by decide +kernel
    obtain ⟨e, he, hpassword⟩ := Option.map_eq_some_iff.1 hreads
    exact ⟨e, toOption_eq_some_iff.1 he, hpassword⟩
  exact ⟨e, he, fun placements => (exists_persisted_iff he placements).2
    ⟨fun hnfs => absurd hnfs (by decide), fun _ => hpassword⟩⟩

/-- The configuration of an export without a service IP. -/
def unaddressedExport : PromoterConfig :=
  .single "nfs-data" "data" [.ofList Agent.nfsServerKind "nfsserver" []]

/-- **An export without a service IP is read, but it is not written.** -/
theorem toPromoter_unaddressedExport :
    ∃ e, ofPromoter .nfs unaddressedExport none [] = .ok e ∧
      ∀ placements d, e.toPromoter placements ≠ .ok d := by
  have hreads : (ofPromoter .nfs unaddressedExport none []).toOption.map (·.serviceIps)
      = some [] := by decide +kernel
  obtain ⟨e, he, hips⟩ := Option.map_eq_some_iff.1 hreads
  exact ⟨e, toOption_eq_some_iff.1 he, fun placements d hd =>
    exists_toPromoter_iff.1 ⟨d, hd⟩ rfl hips⟩

/-! ## Checked endpoints -/

/-- **An endpoint that passes the check of a request** is written and kept. -/
theorem isKept_of_validate {e : Endpoint p} (h : e.validate = .ok ())
    (definition : Option ResourceDefinition) :
    (p = .nfs → e.serviceIps ≠ []) ∧ e.IsKept definition := by
  obtain ⟨_, _, h⟩ := bind_eq_ok_iff.1 h
  obtain ⟨_, hsettings, hvolumes⟩ := bind_eq_ok_iff.1 h
  have hnodup := (Volume.check_eq_ok_iff.1 hvolumes).2
  cases p with
  | iscsi => exact ⟨fun hnfs => absurd hnfs (by decide), password_of_checkSettings hsettings⟩
  | nfs =>
      refine ⟨fun _ hips => ?_, fun _ v rest heq => ?_⟩
      · have hone := (checkSettings_nfs_iff.1 hsettings).1
        rw [hips] at hone
        cases hone
      · rw [heq] at hnodup
        exact (List.nodup_cons.1 hnodup).1
  | nvmeof =>
      refine ⟨fun hnfs => absurd hnfs (by decide), fun hips => ?_⟩
      rw [checkSettings, if_pos (List.isEmpty_iff.2 hips)] at hsettings
      cases hsettings

end FailoverStorage.Endpoint

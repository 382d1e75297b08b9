import FailoverStorage.Endpoint.Basic
import FailoverStorage.Proofs.Data.Except
import FailoverStorage.Proofs.Data.Sorting

/-!
# Settled endpoints

Completing an endpoint twice is completing it once (`Endpoint.fillDefaults_fillDefaults`), and it
does not matter in which order the volumes are listed if no two of them share a number
(`Endpoint.fillDefaults_eq_of_perm`).

An endpoint that has been completed and has passed its check leaves nothing open: completing it
again changes nothing, and its volumes stand in strict order.  `Endpoint.Settled` collects these
facts, `Endpoint.settled_fillDefaults` finds them, and the lemmas after it say which changes of an
endpoint keep them.
-/

namespace FailoverStorage

/-! ## Checked volumes -/

namespace Volume

/-- What a check of volumes finds out, `seen` being the numbers before them. -/
lemma checkFrom_eq_ok_iff {seen : List UInt32} {volumes : List Volume} :
    checkFrom seen volumes = .ok ()
      ↔ (∀ v ∈ volumes, v.number ≠ privateNumber ∧ v.number ∉ seen ∧ v.sizeKib ≠ 0)
        ∧ (volumes.map (·.number)).Nodup := by
  induction volumes generalizing seen with
  | nil => simp [checkFrom]
  | cons v rest ih =>
      by_cases hprivate : v.number = privateNumber
      · simp [checkFrom, hprivate]
      by_cases hseen : v.number ∈ seen
      · simp [checkFrom, hprivate, hseen]
      by_cases hsize : v.sizeKib = 0
      · simp [checkFrom, hprivate, hseen, hsize]
      rw [checkFrom, if_neg hprivate, if_neg hseen, if_neg hsize, ih]
      constructor
      · rintro ⟨hall, hnodup⟩
        refine ⟨fun w hw => ?_, List.nodup_cons.2 ⟨fun hmem => ?_, hnodup⟩⟩
        · rcases List.mem_cons.1 hw with rfl | hw
          · exact ⟨hprivate, hseen, hsize⟩
          · obtain ⟨h₁, h₂, h₃⟩ := hall w hw
            exact ⟨h₁, fun h => h₂ (List.mem_cons_of_mem _ h), h₃⟩
        · obtain ⟨w, hw, heq⟩ := List.mem_map.1 hmem
          exact (hall w hw).2.1 (heq ▸ List.mem_cons_self)
      · rintro ⟨hall, hnodup⟩
        obtain ⟨hmem, hnodup⟩ := List.nodup_cons.1 hnodup
        refine ⟨fun w hw => ?_, hnodup⟩
        obtain ⟨h₁, h₂, h₃⟩ := hall w (List.mem_cons_of_mem _ hw)
        refine ⟨h₁, fun h => ?_, h₃⟩
        rcases List.mem_cons.1 h with h | h
        · exact hmem (List.mem_map.2 ⟨w, hw, h⟩)
        · exact h₂ h

/-- **Volumes pass their check** if no number is taken or occurs twice and no size is 0. -/
lemma check_eq_ok_iff {volumes : List Volume} :
    check volumes = .ok ()
      ↔ (∀ v ∈ volumes, v.number ≠ privateNumber ∧ v.sizeKib ≠ 0)
        ∧ (volumes.map (·.number)).Nodup := by
  rw [check, checkFrom_eq_ok_iff]
  simp

/-- Among volumes with numbers of their own each is found by its number. -/
lemma find?_of_nodup {volumes : List Volume} (hnodup : (volumes.map (·.number)).Nodup) {v : Volume}
    (hv : v ∈ volumes) : volumes.find? (·.number = v.number) = some v := by
  have hsome : (volumes.find? (·.number = v.number)).isSome = true :=
    List.find?_isSome.2 ⟨v, hv, by simp⟩
  obtain ⟨w, hw⟩ := Option.isSome_iff_exists.1 hsome
  have hnumber : w.number = v.number := by simpa using List.find?_some hw
  rw [hw, List.inj_on_of_nodup_map hnodup (List.mem_of_find?_eq_some hw) hv hnumber]

end Volume

namespace Endpoint

variable {p : Protocol}

/-! ## Completion -/

lemma defaultExportPath_ne_empty (name : String) : defaultExportPath name ≠ "" := by
  simp [defaultExportPath, String.append_eq_empty_iff]

lemma fillSettings_fillSettings (id : p.Identity) (s : p.Settings) :
    fillSettings id (fillSettings id s) = fillSettings id s := by
  cases p with
  | iscsi => rfl
  | nfs =>
      obtain ⟨exportPath, allowedIps⟩ := s
      have hpath : ¬ defaultExportPath id = "" := defaultExportPath_ne_empty id
      by_cases h₁ : exportPath = "" <;> by_cases h₂ : allowedIps = []
      all_goals
        simp only [fillSettings, h₁, h₂, hpath, String.isEmpty_iff, List.isEmpty_iff, if_true,
          if_false, List.isEmpty_cons, Bool.false_eq_true]
        rfl
  | nvmeof =>
      obtain ⟨port⟩ := s
      have hport : ¬ defaultPort = 0 := by decide
      by_cases h : port = 0
      all_goals
        simp only [fillSettings, h, hport, if_true, if_false]
        rfl

@[simp] lemma fillVolume_fillVolume (p : Protocol) (v : Volume) :
    fillVolume p (fillVolume p v) = fillVolume p v := by
  cases p <;> rfl

@[simp] lemma number_fillVolume (p : Protocol) (v : Volume) :
    (fillVolume p v).number = v.number := by
  cases p <;> rfl

@[simp] lemma sizeKib_fillVolume (p : Protocol) (v : Volume) :
    (fillVolume p v).sizeKib = v.sizeKib := by
  cases p <;> rfl

/-- A completed endpoint names its group. -/
lemma resourceGroup_fillDefaults (e : Endpoint p) : e.fillDefaults.resourceGroup ≠ "" := by
  show (if e.resourceGroup.isEmpty then defaultResourceGroup else e.resourceGroup) ≠ ""
  split
  · decide
  · rename_i h
    simpa using h

lemma map_number_fillVolume (p : Protocol) (volumes : List Volume) :
    (volumes.map (fillVolume p)).map (·.number) = volumes.map (·.number) := by
  rw [List.map_map]
  exact List.map_congr_left fun v _ => number_fillVolume p v

/-- Completing settles a volume for good. -/
lemma fillVolume_of_mem_fillDefaults {e : Endpoint p} {v : Volume}
    (hv : v ∈ e.fillDefaults.volumes) : fillVolume p v = v := by
  obtain ⟨w, -, rfl⟩ := List.mem_map.1 ((mem_sortOn _).1 hv)
  exact fillVolume_fillVolume p w

/-- **Completing twice is completing once.** -/
lemma fillDefaults_fillDefaults (e : Endpoint p) :
    e.fillDefaults.fillDefaults = e.fillDefaults := by
  have hsettings : fillSettings e.identity e.fillDefaults.settings = e.fillDefaults.settings :=
    fillSettings_fillSettings e.identity e.settings
  have hvolumes : Volume.sort (e.fillDefaults.volumes.map (fillVolume p))
      = e.fillDefaults.volumes := by
    rw [List.map_congr_left fun _ => fillVolume_of_mem_fillDefaults, List.map_id']
    exact sortOn_of_pairwise _ (pairwise_sortOn _ _)
  have hgroup : e.fillDefaults.resourceGroup.isEmpty = false := by
    simpa using resourceGroup_fillDefaults e
  calc e.fillDefaults.fillDefaults
      = { e.fillDefaults with
          settings := fillSettings e.identity e.fillDefaults.settings
          volumes := Volume.sort (e.fillDefaults.volumes.map (fillVolume p))
          resourceGroup := if e.fillDefaults.resourceGroup.isEmpty then defaultResourceGroup
            else e.fillDefaults.resourceGroup } := rfl
    _ = e.fillDefaults := by
      rw [hsettings, hvolumes, hgroup]
      rfl

/-- Completing keeps the numbers of the volumes. -/
lemma numbers_fillDefaults_perm (e : Endpoint p) :
    (e.fillDefaults.volumes.map (·.number)).Perm (e.volumes.map (·.number)) := by
  rw [← map_number_fillVolume p e.volumes]
  exact (sortOn_perm _ _).map _

/-- A completed endpoint has its volumes in strict order if they have numbers of their own. -/
lemma ascending_fillDefaults {e : Endpoint p} (hnodup : (e.volumes.map (·.number)).Nodup) :
    Ascending (·.number) e.fillDefaults.volumes :=
  ascending_sortOn _ (by rwa [map_number_fillVolume])

/-- **The order of the volumes does not matter** if no two of them share a number. -/
lemma fillDefaults_eq_of_perm (e : Endpoint p) {volumes : List Volume}
    (hperm : e.volumes.Perm volumes) (hnodup : (e.volumes.map (·.number)).Nodup) :
    Endpoint.fillDefaults { e with volumes } = e.fillDefaults := by
  have hnodup' : (volumes.map (·.number)).Nodup := (hperm.map _).nodup_iff.1 hnodup
  have hvolumes : (Endpoint.fillDefaults { e with volumes }).volumes = e.fillDefaults.volumes := by
    refine (ascending_fillDefaults (e := { e with volumes }) hnodup').eq_of_perm
      (ascending_fillDefaults hnodup) ?_
    exact (sortOn_perm _ _).trans
      ((hperm.map (fillVolume p)).symm.trans (sortOn_perm _ _).symm)
  exact congrArg (fun sorted => { e.fillDefaults with volumes := sorted }) hvolumes

lemma fillDefaults_volumes_eq_nil_iff {e : Endpoint p} :
    e.fillDefaults.volumes = [] ↔ e.volumes = [] := by
  have hlength : e.fillDefaults.volumes.length = e.volumes.length :=
    (sortOn_perm _ _).length_eq.trans (List.length_map _)
  rw [← List.length_eq_zero_iff, hlength, List.length_eq_zero_iff]

/-- The properties are those of the settings. -/
lemma properties_congr {d e : Endpoint p} (h : d.settings = e.settings) :
    d.properties = e.properties := by
  cases p with
  | nfs => rw [properties, properties, h]
  | _ => rfl

/-! ## Settled endpoints -/

/-- **An endpoint that leaves nothing open** and has passed its check. -/
structure Settled (e : Endpoint p) : Prop where
  name : ResourceName.check e.resourceName = .ok ()
  checked : checkSettings e.serviceIps e.settings = .ok ()
  filled : fillSettings e.identity e.settings = e.settings
  fileSystems : ∀ v ∈ e.volumes, fillVolume p v = v
  ascending : Ascending (·.number) e.volumes
  numbers : ∀ v ∈ e.volumes, v.number ≠ Volume.privateNumber
  sizes : ∀ v ∈ e.volumes, v.sizeKib ≠ 0
  resourceGroup : e.resourceGroup ≠ ""

/-- A completed endpoint that passes its check is settled. -/
theorem settled_fillDefaults {e : Endpoint p} (h : e.fillDefaults.validate = .ok ()) :
    e.fillDefaults.Settled := by
  obtain ⟨_, hname, h⟩ := bind_eq_ok_iff.1 h
  obtain ⟨_, hchecked, hvolumes⟩ := bind_eq_ok_iff.1 h
  obtain ⟨hall, hnodup⟩ := Volume.check_eq_ok_iff.1 hvolumes
  exact
    { name := hname
      checked := hchecked
      filled := fillSettings_fillSettings e.identity e.settings
      fileSystems := fun _ hv => fillVolume_of_mem_fillDefaults hv
      ascending := ascending_fillDefaults ((numbers_fillDefaults_perm e).nodup_iff.1 hnodup)
      numbers := fun v hv => (hall v hv).1
      sizes := fun v hv => (hall v hv).2
      resourceGroup := resourceGroup_fillDefaults e }

/-- A settled endpoint is complete. -/
lemma Settled.fillDefaults {e : Endpoint p} (h : e.Settled) : e.fillDefaults = e := by
  have hvolumes : e.volumes.map (fillVolume p) = e.volumes := by
    rw [List.map_congr_left h.fileSystems, List.map_id']
  have hgroup : e.resourceGroup.isEmpty = false := by simpa using h.resourceGroup
  rw [Endpoint.fillDefaults, h.filled, hvolumes, Volume.sort, sortOn_of_ascending _ h.ascending,
    hgroup]
  rfl

/-- A settled endpoint passes its check. -/
lemma Settled.validate {e : Endpoint p} (h : e.Settled) : e.validate = .ok () := by
  have hvolumes : Volume.check e.volumes = .ok () :=
    Volume.check_eq_ok_iff.2 ⟨fun v hv => ⟨h.numbers v hv, h.sizes v hv⟩, h.ascending.nodup⟩
  rw [Endpoint.validate, h.name, h.checked, hvolumes]
  rfl

/-- A volume is found by its number. -/
lemma Settled.find?_volumes {e : Endpoint p} (h : e.Settled) {v : Volume} (hv : v ∈ e.volumes) :
    e.volumes.find? (·.number = v.number) = some v :=
  Volume.find?_of_nodup h.ascending.nodup hv

/-- The number of a storage volume belongs to no other one. -/
lemma Settled.nodup_storageVolumes {e : Endpoint p} (h : e.Settled) :
    (e.storageVolumes.map (·.number)).Nodup := by
  rw [storageVolumes, List.map_cons, List.nodup_cons]
  refine ⟨fun hmem => ?_, h.ascending.nodup⟩
  obtain ⟨v, hv, heq⟩ := List.mem_map.1 hmem
  exact h.numbers v hv heq

/-! ## Removing a volume -/

/-- An endpoint without one of its volumes. -/
def withoutVolume (e : Endpoint p) (number : UInt32) : Endpoint p :=
  { e with volumes := e.volumes.filter (·.number ≠ number) }

lemma mem_withoutVolume {e : Endpoint p} {number : UInt32} {v : Volume} :
    v ∈ (e.withoutVolume number).volumes ↔ v ∈ e.volumes ∧ v.number ≠ number := by
  simp [withoutVolume]

/-- A settled endpoint stays settled without a volume. -/
lemma Settled.withoutVolume {e : Endpoint p} (h : e.Settled) (number : UInt32) :
    (e.withoutVolume number).Settled :=
  { name := h.name
    checked := h.checked
    filled := h.filled
    fileSystems := fun v hv => h.fileSystems v (mem_withoutVolume.1 hv).1
    ascending := h.ascending.filter _
    numbers := fun v hv => h.numbers v (mem_withoutVolume.1 hv).1
    sizes := fun v hv => h.sizes v (mem_withoutVolume.1 hv).1
    resourceGroup := h.resourceGroup }

/-! ## Adding a volume -/

/-- An endpoint with one more volume, in its place. -/
def withVolume (e : Endpoint p) (v : Volume) : Endpoint p :=
  { e with volumes := Volume.sort (e.volumes ++ [fillVolume p v]) }

lemma mem_withVolume {e : Endpoint p} {v w : Volume} :
    w ∈ (e.withVolume v).volumes ↔ w ∈ e.volumes ∨ w = fillVolume p v := by
  simp [withVolume, Volume.sort]

section

variable {e : Endpoint p} {v : Volume} (h : e.Settled)

include h

/-- Completing a settled endpoint with another volume settles that volume alone. -/
lemma Settled.fillDefaults_append (v : Volume) :
    Endpoint.fillDefaults { e with volumes := e.volumes ++ [v] } = e.withVolume v := by
  have hvolumes : (e.volumes ++ [v]).map (fillVolume p) = e.volumes ++ [fillVolume p v] := by
    rw [List.map_append, List.map_congr_left h.fileSystems, List.map_id']
    rfl
  have hgroup : e.resourceGroup.isEmpty = false := by simpa using h.resourceGroup
  simp only [Endpoint.fillDefaults, h.filled, hvolumes, hgroup]
  rfl

variable (hnew : v.number ∉ e.volumes.map (·.number))

include hnew

/-- A settled endpoint stays settled with a new volume that passes its check. -/
lemma Settled.withVolume (hv : Volume.check [v] = .ok ()) : (e.withVolume v).Settled := by
  obtain ⟨hnumber, hsize⟩ := (Volume.check_eq_ok_iff.1 hv).1 v List.mem_cons_self
  have hnodup : ((e.volumes ++ [fillVolume p v]).map (·.number)).Nodup := by
    rw [List.map_append]
    refine List.nodup_append.2 ⟨h.ascending.nodup, List.nodup_singleton _, ?_⟩
    intro n hn m hm heq
    rw [List.map_singleton, List.mem_singleton, number_fillVolume] at hm
    exact hnew (hm ▸ heq ▸ hn)
  refine
    { name := h.name
      checked := h.checked
      filled := h.filled
      fileSystems := fun w hw => ?_
      ascending := ascending_sortOn _ hnodup
      numbers := fun w hw => ?_
      sizes := fun w hw => ?_
      resourceGroup := h.resourceGroup }
  all_goals rcases mem_withVolume.1 hw with hw | rfl
  · exact h.fileSystems w hw
  · exact fillVolume_fillVolume p v
  · exact h.numbers w hw
  · rwa [number_fillVolume]
  · exact h.sizes w hw
  · rwa [sizeKib_fillVolume]

/-- **Removing a volume that was added leaves an endpoint as it was.** -/
lemma Settled.withoutVolume_withVolume : (e.withVolume v).withoutVolume v.number = e := by
  have hvolumes := filter_sortOn_append Volume.number (a := fillVolume p v) h.ascending
    (by rwa [number_fillVolume])
  rw [number_fillVolume] at hvolumes
  exact congrArg (fun volumes => { e with volumes }) hvolumes

end

end Endpoint

end FailoverStorage

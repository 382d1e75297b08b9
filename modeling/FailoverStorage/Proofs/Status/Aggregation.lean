import FailoverStorage.Proofs.Status
import Mathlib.Data.List.Forall2

/-!
# A status as a function of reports

A status is folded from what the nodes report, and nodes report in no particular order.

**Order.**  All that the fold uses of the placements are questions whether one of them is in use,
the numbers of their volumes and how many replicas are up to date.  None of these depends on the
order (`Status.serviceState_perm`, `Status.volumes_perm`).

**Recovery.**  A volume that comes up to date on a node with a disk changes one state of one replica
list (`Status.forall₂_diskStates_of_catchesUp`), so there are as many replicas up to date as before
or more, and a volume that was well stays well.

`Status.ofPlacements_aggregates` puts this together with what each part of a status says.
-/

namespace FailoverStorage.Status

variable {ps qs : List Placement}

/-! ## The order of the reports -/

lemma serviceState_perm (attached : Bool) (h : ps.Perm qs) :
    serviceState attached qs = serviceState attached ps := by
  have hempty : qs.isEmpty = ps.isEmpty := by
    rw [Bool.eq_iff_iff, List.isEmpty_iff, List.isEmpty_iff]
    exact ⟨fun hnil => (hnil ▸ h).eq_nil, fun hnil => (hnil ▸ h).symm.eq_nil⟩
  rw [serviceState, serviceState, h.any_eq, h.any_eq, hempty]

lemma volumeNumbers_perm (h : ps.Perm qs) : volumeNumbers qs = volumeNumbers ps := by
  refine (ascending_volumeNumbers qs).eq_of_mem_iff (ascending_volumeNumbers ps) fun n => ?_
  rw [mem_volumeNumbers, mem_volumeNumbers]
  exact and_congr_left fun _ => exists_congr fun p => and_congr_left fun _ => h.symm.mem_iff

lemma volumeHealth_perm (number : UInt32) (group : Option ResourceGroup) (h : ps.Perm qs) :
    volumeHealth number group qs = volumeHealth number group ps := by
  have hstates : (diskStates number ps).Perm (diskStates number qs) := (h.filter _).filterMap _
  cases group with
  | none => rfl
  | some group => simp only [volumeHealth, hstates.all_eq, hstates.countP_eq]

/-- **The volumes of a status do not depend on the order** in which the nodes report. -/
lemma volumes_perm (attached : Bool) (definition : ResourceDefinition)
    (group : Option ResourceGroup) (h : ps.Perm qs) :
    (ofPlacements attached (some definition) group qs).volumes
      = (ofPlacements attached (some definition) group ps).volumes := by
  show (volumeNumbers qs).map _ = (volumeNumbers ps).map _
  rw [volumeNumbers_perm h]
  exact List.map_congr_left fun n _ => by rw [volumeHealth_perm n group h]

/-! ## What the parts of a status say -/

lemma any_isInUse_iff : ps.any (·.isInUse) = true ↔ ∃ p ∈ ps, p.inUse = some true := by
  rw [List.any_eq_true]
  refine exists_congr fun p => and_congr_right fun _ => ?_
  rw [Placement.isInUse]
  cases p.inUse <;> simp

/-- A service is stopped where nobody is set to run it and every node says that it does not. -/
lemma serviceState_eq_stopped_iff (attached : Bool) : serviceState attached ps = .stopped
    ↔ ps ≠ [] ∧ (∀ p ∈ ps, p.inUse = some false) ∧ attached = false := by
  rw [serviceState]
  split
  · rename_i hused
    obtain ⟨p, hp, huse⟩ := any_isInUse_iff.1 hused
    refine iff_of_false ServiceState.noConfusion ?_
    rintro ⟨-, hidle, -⟩
    cases huse.symm.trans (hidle p hp)
  rename_i hunused
  split
  · rename_i hsilent
    refine iff_of_false ServiceState.noConfusion ?_
    rintro ⟨hne, hidle, -⟩
    rcases Bool.or_eq_true_iff.1 hsilent with hempty | hnone
    · exact hne (List.isEmpty_iff.1 hempty)
    · obtain ⟨p, hp, hinUse⟩ := List.any_eq_true.1 hnone
      rw [hidle p hp] at hinUse
      cases hinUse
  rename_i hheard
  have hidle : ∀ p ∈ ps, p.inUse = some false := by
    intro p hp
    cases hinUse : p.inUse with
    | none => exact absurd (Bool.or_eq_true_iff.2 (.inr (List.any_eq_true.2
        ⟨p, hp, by rw [hinUse]; rfl⟩))) hheard
    | some used =>
        cases used with
        | false => rfl
        | true => exact absurd (any_isInUse_iff.2 ⟨p, hp, hinUse⟩) hunused
  have hne : ps ≠ [] := fun hnil => hheard (by rw [hnil]; rfl)
  cases attached with
  | false => exact iff_of_true rfl ⟨hne, hidle, rfl⟩
  | true => exact iff_of_false ServiceState.noConfusion fun h => Bool.noConfusion h.2.2

lemma numbers_ofPlacements (attached : Bool) (definition : ResourceDefinition)
    (group : Option ResourceGroup) :
    (ofPlacements attached (some definition) group ps).volumes.map (·.number)
      = volumeNumbers ps :=
  (List.map_map ..).trans (List.map_id' _)

/-- The numbers in a status are the non-zero ones among the placements. -/
lemma mem_numbers_ofPlacements {n : UInt32} (attached : Bool) (definition : ResourceDefinition)
    (group : Option ResourceGroup) :
    n ∈ (ofPlacements attached (some definition) group ps).volumes.map (·.number)
      ↔ n ≠ 0 ∧ ∃ p ∈ ps, ∃ v ∈ p.volumes, v.number = n := by
  rw [numbers_ofPlacements, mem_volumeNumbers, and_comm]
  exact and_congr_right fun _ => exists_congr fun p => and_congr_right fun _ => List.mem_map

/-- A volume is well in a status if it is listed and enough replicas are up to date. -/
lemma ok_mem_ofPlacements {n : UInt32} (attached : Bool) (definition : ResourceDefinition)
    (group : Option ResourceGroup) :
    { number := n, health := .ok } ∈ (ofPlacements attached (some definition) group ps).volumes
      ↔ n ∈ volumeNumbers ps ∧ volumeHealth n group ps = .ok := by
  refine List.mem_map.trans ⟨?_, fun ⟨hn, hok⟩ => ⟨n, hn, by rw [hok]⟩⟩
  rintro ⟨m, hm, heq⟩
  obtain ⟨rfl, hok⟩ := VolumeStatus.mk.inj heq
  exact ⟨hm, hok⟩

/-! ## A volume comes up to date -/

/-- **One volume comes up to date** on one node.  If the node has no disk, that has no effect on
the volume's health. -/
inductive CatchesUp : List Placement → List Placement → Prop where
  | intro (before after : List Placement) (p : Placement) (lower upper : List PlacedVolume)
      (v : PlacedVolume) :
      CatchesUp (before ++ { p with volumes := lower ++ v :: upper } :: after)
        (before ++ { p with volumes := lower ++ { v with diskState := .upToDate } :: upper }
          :: after)

/-- A disk keeps its state or comes up to date. -/
def Recovers (old new : DiskState) : Prop := new = old ∨ new = .upToDate

/-- What one node says about the disk of a volume. -/
def diskState? (number : UInt32) (p : Placement) : Option DiskState :=
  (p.volumes.find? (·.number = number)).map (·.diskState)

lemma rel_recovers_refl (state? : Option DiskState) : Option.Rel Recovers state? state? := by
  cases state? with
  | none => exact .none
  | some state => exact .some (.inl rfl)

/-- The volumes are found where they were, so each disk is as it was or up to date. -/
lemma diskState?_recovers (number : UInt32) (p : Placement) (lower upper : List PlacedVolume)
    (v : PlacedVolume) : Option.Rel Recovers
      (diskState? number { p with volumes := lower ++ v :: upper })
      (diskState? number
        { p with volumes := lower ++ { v with diskState := .upToDate } :: upper }) := by
  rw [diskState?, diskState?, List.find?_append, List.find?_append]
  cases lower.find? (·.number = number) with
  | some found => exact rel_recovers_refl _
  | none =>
      rw [Option.none_or, Option.none_or, List.find?_cons, List.find?_cons]
      by_cases hnumber : v.number = number
      · simp only [hnumber, decide_true]
        exact .some (.inr rfl)
      · simp only [hnumber, decide_false]
        exact rel_recovers_refl _

/-- One report follows another: the node has a disk as before, which keeps its state or comes up to
date. -/
def Follows (number : UInt32) (p q : Placement) : Prop :=
  q.diskless = p.diskless ∧ Option.Rel Recovers (diskState? number p) (diskState? number q)

/-- **Every replica keeps its state or comes up to date.** -/
lemma forall₂_diskStates_of_catchesUp (number : UInt32) (h : CatchesUp ps qs) :
    List.Forall₂ Recovers (diskStates number ps) (diskStates number qs) := by
  have hsame : ∀ l : List Placement, List.Forall₂ (Follows number) l l := fun l =>
    List.forall₂_same.2 fun p _ => ⟨rfl, rel_recovers_refl _⟩
  have hnodes : List.Forall₂ (Follows number) ps qs := by
    obtain ⟨before, after, p, lower, upper, v⟩ := h
    exact List.rel_append (hsame before)
      (.cons ⟨rfl, diskState?_recovers number p lower upper v⟩ (hsame after))
  have hdisks : List.Forall₂ (Follows number) (ps.filter (!·.diskless))
      (qs.filter (!·.diskless)) :=
    List.rel_filter (fun _ _ hpq => Bool.eq_iff_iff.1 (congrArg (!·) hpq.1.symm)) hnodes
  exact List.rel_filterMap (fun _ _ hpq => hpq.2) hdisks

lemma countP_upToDate_le {old new : List DiskState} (h : List.Forall₂ Recovers old new) :
    old.countP (· = .upToDate) ≤ new.countP (· = .upToDate) := by
  induction h with
  | nil => exact Nat.le_refl _
  | cons hab _ ih =>
      rcases hab with rfl | rfl
      · simp only [List.countP_cons]
        omega
      · simp only [List.countP_cons, decide_true, if_true]
        split <;> omega

/-- Where no state is known in the end, none was known before. -/
lemma all_unknown_of_forall₂ {old new : List DiskState} (h : List.Forall₂ Recovers old new)
    (hnew : new.all (· = .unknown) = true) : old.all (· = .unknown) = true := by
  induction h with
  | nil => rfl
  | cons hab _ ih =>
      obtain ⟨hb, hrest⟩ := Bool.and_eq_true_iff.1 (List.all_cons ▸ hnew)
      rcases hab with rfl | rfl
      · rw [List.all_cons, hb, ih hrest]
        rfl
      · cases of_decide_eq_true hb

/-- **A volume that is well stays well** while replicas come up to date. -/
lemma volumeHealth_eq_ok_of_forall₂ {number : UInt32} {group : Option ResourceGroup}
    (h : List.Forall₂ Recovers (diskStates number ps) (diskStates number qs))
    (hok : volumeHealth number group ps = .ok) : volumeHealth number group qs = .ok := by
  cases group with
  | none => cases hok
  | some group =>
      simp only [volumeHealth] at hok ⊢
      split at hok
      · cases hok
      rename_i hknown
      split at hok
      · rename_i hreplicas
        rw [if_neg fun hnew => hknown (all_unknown_of_forall₂ h hnew),
          if_pos (hreplicas.trans (countP_upToDate_le h))]
      · cases hok

lemma volumeNumbers_of_catchesUp (h : CatchesUp ps qs) : volumeNumbers qs = volumeNumbers ps := by
  obtain ⟨before, after, p, lower, upper, v⟩ := h
  simp only [volumeNumbers, List.flatMap_append, List.flatMap_cons, List.map_append, List.map_cons]

/-! ## The whole status -/

/-- **What a status says of the placements**, in whatever order they are reported.  The service is
started where a node has the resource in use, and stopped where every node says that it has not and
nobody is set to run it.  The volumes are the data volumes that some node lists, each once and in
order.  A volume that is well stays well when one comes up to date. -/
theorem ofPlacements_aggregates (attached : Bool) (definition : ResourceDefinition)
    (group : Option ResourceGroup) (ps : List Placement) :
    let status := ofPlacements attached (some definition) group
    (∀ qs, ps.Perm qs →
        (status qs).service = (status ps).service ∧ (status qs).volumes = (status ps).volumes)
      ∧ ((status ps).service = .started ↔ ∃ p ∈ ps, p.inUse = some true)
      ∧ ((status ps).service = .stopped
        ↔ ps ≠ [] ∧ (∀ p ∈ ps, p.inUse = some false) ∧ attached = false)
      ∧ ((status ps).volumes.map (·.number)).Pairwise (· < ·)
      ∧ (∀ n, n ∈ (status ps).volumes.map (·.number)
        ↔ n ≠ 0 ∧ ∃ p ∈ ps, ∃ v ∈ p.volumes, v.number = n)
      ∧ ∀ qs, CatchesUp ps qs →
        (status qs).volumes.map (·.number) = (status ps).volumes.map (·.number)
        ∧ ∀ n, { number := n, health := .ok } ∈ (status ps).volumes →
          { number := n, health := .ok } ∈ (status qs).volumes := by
  intro status
  have hnumbers : ∀ ps, (status ps).volumes.map (·.number) = volumeNumbers ps := fun ps =>
    numbers_ofPlacements attached definition group
  refine ⟨fun qs h => ⟨serviceState_perm attached h, volumes_perm attached definition group h⟩,
    ?_, serviceState_eq_stopped_iff attached, ?_, ?_, fun qs h => ⟨?_, fun n hn => ?_⟩⟩
  · rw [service_ofPlacements_eq_started_iff, any_isInUse_iff]
  · rw [hnumbers]
    exact ascending_volumeNumbers ps
  · intro n
    exact mem_numbers_ofPlacements attached definition group
  · rw [hnumbers, hnumbers, volumeNumbers_of_catchesUp h]
  · obtain ⟨hlisted, hok⟩ := (ok_mem_ofPlacements attached definition group).1 hn
    refine (ok_mem_ofPlacements attached definition group).2 ⟨?_, ?_⟩
    · rwa [volumeNumbers_of_catchesUp h]
    · exact volumeHealth_eq_ok_of_forall₂ (forall₂_diskStates_of_catchesUp n h) hok

/-! ## Three nodes -/

/-- A node of a resource with the state of its disks, of which one is listed twice. -/
def reportOf (node : String) (disk : DiskState) : Placement :=
  { name := "data", nodeName := node, inUse := some false
    volumes := [{ number := 2, diskState := disk }, { number := 0, diskState := disk },
      { number := 1, diskState := disk }, { number := 2, diskState := .inconsistent }] }

/-- Two nodes are up to date, a third one is not. -/
def threeReports : List Placement :=
  [reportOf "node-a" .upToDate, reportOf "node-b" .outdated, reportOf "node-c" .upToDate]

/-- Both volumes of the three nodes are well, in whatever order the nodes report, and also after a
volume came up to date on the second node; and the service is stopped. -/
theorem ofPlacements_threeReports :
    let status := ofPlacements false (some { name := "data", resourceGroup := "group" })
      (some { name := "group", placeCount := some 2 })
    (status threeReports).service = .stopped
      ∧ (status threeReports).volumes
        = [{ number := 1, health := .ok }, { number := 2, health := .ok }]
      ∧ (status threeReports.reverse).volumes = (status threeReports).volumes
      ∧ ∃ qs, CatchesUp threeReports qs
        ∧ { number := 2, health := .ok } ∈ (status qs).volumes := by
  intro status
  obtain ⟨hperm, -, hstopped, -, -, hcatch⟩ := ofPlacements_aggregates false
    { name := "data", resourceGroup := "group" } (some { name := "group", placeCount := some 2 })
    threeReports
  have hvolumes : (status threeReports).volumes
      = [{ number := 1, health := .ok }, { number := 2, health := .ok }] := by decide
  have hcaught := CatchesUp.intro [reportOf "node-a" .upToDate] [reportOf "node-c" .upToDate]
    (reportOf "node-b" .outdated) [] (reportOf "node-b" .outdated).volumes.tail
    { number := 2, diskState := .outdated }
  refine ⟨hstopped.2 ⟨by decide, by decide, rfl⟩, hvolumes,
    (hperm _ (List.reverse_perm _).symm).2, _, hcaught, (hcatch _ hcaught).2 2 ?_⟩
  rw [hvolumes]
  decide

end FailoverStorage.Status

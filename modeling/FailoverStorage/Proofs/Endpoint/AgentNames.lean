import FailoverStorage.Proofs.Endpoint.Configuration
import Mathlib.Data.List.Nodup
import Mathlib.Data.List.Range

/-!
# Names of agents

Agents of a configuration are told apart by their names.  A name is made of a stem, which is a fixed
word without digits, and an ending, which is empty or begins with a digit; so a name tells its stem
(`stemOf_append`), and agents with different stems have different names.  Agents with one stem are
numbered, by the position of a service IP or of a network or by a volume, and no number occurs
twice.

`Endpoint.nodup_names` draws this together: in the configuration of an endpoint whose volumes have
numbers of their own, no two agents share a name.
-/

namespace FailoverStorage

open Text

/-! ## Stems and endings -/

namespace Text

/-- A text without digits. -/
def IsStem (s : String) : Prop := ∀ c ∈ s.toList, c.isDigit = false

instance (s : String) : Decidable (IsStem s) :=
  List.decidableBAll (fun c : Char => c.isDigit = false) s.toList

/-- A text that is empty or begins with a digit. -/
def IsEnding (s : String) : Prop := ∀ c, s.toList.head? = some c → c.isDigit = true

/-- What stands before the first digit of a text. -/
def stemOf (s : String) : List Char := s.toList.takeWhile (!·.isDigit)

/-- **A name tells its stem.** -/
lemma stemOf_append {stem ending : String} (hstem : IsStem stem) (hending : IsEnding ending) :
    stemOf (stem ++ ending) = stem.toList := by
  have hnil : ending.toList.takeWhile (!·.isDigit) = [] := by
    cases hlist : ending.toList with
    | nil => rfl
    | cons c rest =>
        have hc : c.isDigit = true := hending c (by rw [hlist, List.head?_cons])
        rw [List.takeWhile_cons, hc]
        rfl
  have hall : ∀ c ∈ stem.toList, (!c.isDigit) = true := fun c hc => by rw [hstem c hc]; rfl
  rw [stemOf, String.toList_append, List.takeWhile_append_of_pos hall, hnil, List.append_nil]

lemma isEnding_empty : IsEnding "" := fun _ h => nomatch h

/-- A number can follow a stem, with anything after it. -/
lemma isEnding_decimal_append (n : Nat) (s : String) : IsEnding (decimal n ++ s) := by
  intro c hc
  rw [String.toList_append] at hc
  cases hlist : (decimal n).toList with
  | nil => exact absurd (String.toList_eq_nil_iff.1 hlist) (decimal_ne_empty n)
  | cons d rest =>
      rw [hlist, List.cons_append, List.head?_cons] at hc
      obtain rfl := Option.some.inj hc
      exact isDigit_of_mem_decimal (hlist ▸ List.mem_cons_self)

lemma isEnding_decimal (n : Nat) : IsEnding (decimal n) := by
  have h := isEnding_decimal_append n ""
  rwa [String.append_empty] at h

/-- **A stem with the endings that occur after it.** -/
structure NameFamily where
  stem : String
  endings : List String

/-- The names of a family. -/
def NameFamily.names (f : NameFamily) : List String := f.endings.map (f.stem ++ ·)

/-- A family in which no name occurs twice and every name tells the stem. -/
structure NameFamily.Distinct (f : NameFamily) : Prop where
  stem : IsStem f.stem
  endings : ∀ s ∈ f.endings, IsEnding s
  nodup : f.endings.Nodup

lemma NameFamily.Distinct.stemOf_eq {f : NameFamily} (h : f.Distinct) {name : String}
    (hname : name ∈ f.names) : stemOf name = f.stem.toList := by
  obtain ⟨s, hs, rfl⟩ := List.mem_map.1 hname
  exact stemOf_append h.stem (h.endings s hs)

/-- **Names of families with different stems are different.** -/
lemma nodup_flatMap_names {families : List NameFamily} (h : ∀ f ∈ families, f.Distinct)
    (hstems : (families.map (·.stem)).Nodup) : (families.flatMap (·.names)).Nodup := by
  refine List.nodup_flatMap.2 ⟨fun f hf => ?_, ?_⟩
  · exact (h f hf).nodup.map fun _ _ heq => (String.append_right_inj _).1 heq
  · refine (List.pairwise_map.1 hstems).imp_of_mem fun {f g} hf hg hne name hname hname' => hne ?_
    rw [← String.toList_inj, ← (h f hf).stemOf_eq hname, (h g hg).stemOf_eq hname']

end Text

namespace Endpoint

variable {p : Protocol}

/-! ## Families of agents -/

/-- One agent with a name of its own. -/
def loneFamily (name : String) : NameFamily := { stem := name, endings := [""] }

/-- An agent for each position. -/
def indexedFamily (stem : String) (count : Nat) : NameFamily :=
  { stem, endings := (List.range count).map decimal }

/-- An agent for each volume. -/
def volumeFamily (stem : String) (volumes : List Volume) : NameFamily :=
  { stem, endings := volumes.map fun v => decimal v.number.toNat }

/-- An agent for each volume and each network. -/
def exportFamily (volumes : List Volume) (count : Nat) : NameFamily :=
  { stem := "export_"
    endings := volumes.flatMap fun v =>
      (List.range count).map fun i => decimal v.number.toNat ++ "_" ++ decimal i }

/-- The families of the agents of a service. -/
def serviceFamilies : {p : Protocol} → Endpoint p → List NameFamily
  | .iscsi, e => [loneFamily "target", volumeFamily "lu" e.volumes]
  | .nfs, e => [loneFamily "nfsserver", volumeFamily "fs_" e.volumes,
      exportFamily e.volumes (e.settings : NfsSettings).allowedIps.length]
  | .nvmeof, e => [loneFamily "subsys", volumeFamily "ns" e.volumes,
      indexedFamily "port" e.serviceIps.length]

/-- **The families of the agents of an endpoint**, in the order in which they start. -/
def agentFamilies (e : Endpoint p) : List NameFamily :=
  [loneFamily "fs_cluster_private", indexedFamily "portblock" e.serviceIps.length,
      indexedFamily "service_ip" e.serviceIps.length]
    ++ serviceFamilies e ++ [indexedFamily "portunblock" e.serviceIps.length]

/-- Agents that are numbered by position. -/
lemma map_name_zipIdx {α : Type} (stem : String) {f : α × Nat → Agent}
    (h : ∀ x, (f x).name = stem ++ decimal x.2) (l : List α) :
    (l.zipIdx.map f).map (·.name) = (indexedFamily stem l.length).names := by
  have hpositions : List.range l.length = l.zipIdx.map Prod.snd := by
    rw [List.zipIdx_map_snd, List.range_eq_range']
  rw [NameFamily.names, indexedFamily, hpositions, List.map_map, List.map_map, List.map_map]
  exact List.map_congr_left fun x _ => h x

lemma map_name_volumes (stem : String) {f : Volume → Agent}
    (h : ∀ v, (f v).name = stem ++ decimal v.number.toNat) (volumes : List Volume) :
    (volumes.map f).map (·.name) = (volumeFamily stem volumes).names := by
  rw [NameFamily.names, volumeFamily, List.map_map, List.map_map]
  exact List.map_congr_left fun v _ => h v

lemma map_name_exportAgents (name : String) (s : NfsSettings) (volumes : List Volume) :
    (volumes.flatMap (exportAgents name s)).map (·.name)
      = (exportFamily volumes s.allowedIps.length).names := by
  rw [NameFamily.names, exportFamily, List.map_flatMap, List.map_flatMap]
  refine congrArg (volumes.flatMap ·) (funext fun v => ?_)
  have hpositions : List.range s.allowedIps.length = s.allowedIps.zipIdx.map Prod.snd := by
    rw [List.zipIdx_map_snd, List.range_eq_range']
  rw [exportAgents, hpositions, List.map_map, List.map_map, List.map_map]
  refine List.map_congr_left fun x _ => ?_
  simp [Agent.ofList, String.append_assoc]

lemma map_name_serviceAgents {e : Endpoint p} {placements : List Placement}
    {service : List Agent} (h : serviceAgents e placements = .ok service) :
    service.map (·.name) = (serviceFamilies e).flatMap (·.names) := by
  cases p with
  | iscsi =>
      cases h
      rw [List.map_cons, map_name_volumes "lu" fun _ => rfl]
      simp [serviceFamilies, loneFamily, NameFamily.names, targetAgent, Agent.ofList]
  | nfs =>
      cases hips : e.serviceIps with
      | nil =>
          rw [serviceAgents, hips] at h
          cases h
      | cons ip ips =>
          rw [serviceAgents, hips] at h
          cases h
          have hexports := map_name_exportAgents e.identity e.settings e.volumes
          rw [List.map_append, List.map_cons, map_name_volumes "fs_" fun _ => rfl, hexports]
          simp [serviceFamilies, loneFamily, NameFamily.names, serverAgent, Agent.ofList]
  | nvmeof =>
      cases h
      rw [List.map_append, List.map_cons, map_name_volumes "ns" fun _ => rfl,
        map_name_zipIdx "port" fun _ => rfl]
      simp [serviceFamilies, loneFamily, NameFamily.names, subsystemAgent, Agent.ofList]

/-- **The names of the agents are those of the families**, in order. -/
lemma map_name_agentsAround {e : Endpoint p} {placements : List Placement} {service : List Agent}
    (h : serviceAgents e placements = .ok service) :
    (agentsAround e service placements).map (·.name) = e.agentFamilies.flatMap (·.names) := by
  rw [agentsAround, leadingAgents, trailingAgents, agentFamilies, List.flatMap_append,
    List.flatMap_append, ← map_name_serviceAgents h]
  simp only [List.map_append, List.map_cons]
  rw [map_name_zipIdx "portblock" fun _ => rfl, map_name_zipIdx "service_ip" fun _ => rfl,
    map_name_zipIdx "portunblock" fun _ => rfl]
  simp [loneFamily, NameFamily.names, Agent.mount, Agent.ofList]

/-! ## Distinct names -/

lemma distinct_loneFamily {name : String} (h : IsStem name) : (loneFamily name).Distinct :=
  { stem := h
    endings := fun _ hs => List.mem_singleton.1 hs ▸ isEnding_empty
    nodup := List.nodup_singleton _ }

lemma distinct_indexedFamily {stem : String} (h : IsStem stem) (count : Nat) :
    (indexedFamily stem count).Distinct where
  stem := h
  endings s hs := by
    obtain ⟨i, -, rfl⟩ := List.mem_map.1 hs
    exact isEnding_decimal i
  nodup := List.nodup_range.map fun _ _ => decimal_inj

section

variable {volumes : List Volume} (hnodup : (volumes.map (·.number)).Nodup)

include hnodup

/-- Volumes with numbers of their own have numerals of their own. -/
lemma pairwise_decimal_ne :
    volumes.Pairwise fun v w => decimal v.number.toNat ≠ decimal w.number.toNat :=
  (List.pairwise_map.1 hnodup).imp fun hne heq => hne (UInt32.toNat_inj.1 (decimal_inj heq))

lemma distinct_volumeFamily {stem : String} (h : IsStem stem) :
    (volumeFamily stem volumes).Distinct where
  stem := h
  endings s hs := by
    obtain ⟨v, -, rfl⟩ := List.mem_map.1 hs
    exact isEnding_decimal _
  nodup := List.pairwise_map.2 (pairwise_decimal_ne hnodup)

lemma distinct_exportFamily (count : Nat) : (exportFamily volumes count).Distinct where
  stem := show IsStem "export_" by decide
  endings s hs := by
    obtain ⟨v, -, hs⟩ := List.mem_flatMap.1 hs
    obtain ⟨i, -, rfl⟩ := List.mem_map.1 hs
    rw [String.append_assoc]
    exact isEnding_decimal_append _ _
  nodup := by
    refine List.nodup_flatMap.2 ⟨fun v _ => ?_, ?_⟩
    · exact List.nodup_range.map fun _ _ heq => decimal_inj ((String.append_right_inj _).1 heq)
    · -- the number of a volume ends where the underscore is
      refine (pairwise_decimal_ne hnodup).imp fun {v w} hne s hs hs' => hne ?_
      obtain ⟨i, -, rfl⟩ := List.mem_map.1 hs
      obtain ⟨j, -, heq⟩ := List.mem_map.1 hs'
      have hdigits : ∀ n : Nat, '_' ∉ (decimal n).toList := notMem_decimal rfl
      have hcut := congrArg (fun s : String => splitFirst '_' s.toList) heq
      simp only [String.toList_append, List.append_assoc] at hcut
      rw [show "_".toList = ['_'] from rfl, List.singleton_append, List.singleton_append,
        splitFirst_append (hdigits _), splitFirst_append (hdigits _)] at hcut
      exact (String.toList_inj.1 (congrArg Prod.fst (Option.some.inj hcut))).symm

end

lemma distinct_of_mem_agentFamilies {e : Endpoint p} (hnodup : (e.volumes.map (·.number)).Nodup) :
    ∀ f ∈ e.agentFamilies, f.Distinct := by
  have hservice : ∀ f ∈ serviceFamilies e, f.Distinct := by
    cases p with
    | iscsi =>
        simp only [serviceFamilies, List.forall_mem_cons]
        exact ⟨distinct_loneFamily (by decide),
          distinct_volumeFamily hnodup (by decide), fun _ h => nomatch h⟩
    | nfs =>
        simp only [serviceFamilies, List.forall_mem_cons]
        exact ⟨distinct_loneFamily (by decide),
          distinct_volumeFamily hnodup (by decide), distinct_exportFamily hnodup _,
          fun _ h => nomatch h⟩
    | nvmeof =>
        simp only [serviceFamilies, List.forall_mem_cons]
        exact ⟨distinct_loneFamily (by decide),
          distinct_volumeFamily hnodup (by decide),
          distinct_indexedFamily (by decide) _, fun _ h => nomatch h⟩
  simp only [agentFamilies, List.forall_mem_append, List.forall_mem_cons]
  exact ⟨⟨⟨distinct_loneFamily (by decide), distinct_indexedFamily (by decide) _,
    distinct_indexedFamily (by decide) _, fun _ h => nomatch h⟩, hservice⟩,
    distinct_indexedFamily (by decide) _, fun _ h => nomatch h⟩

/-- The stems of a configuration are different words. -/
lemma nodup_stems (e : Endpoint p) : (e.agentFamilies.map (·.stem)).Nodup := by
  cases p with
  | iscsi =>
      show ["fs_cluster_private", "portblock", "service_ip", "target", "lu", "portunblock"].Nodup
      decide
  | nfs =>
      show ["fs_cluster_private", "portblock", "service_ip", "nfsserver", "fs_", "export_",
        "portunblock"].Nodup
      decide
  | nvmeof =>
      show ["fs_cluster_private", "portblock", "service_ip", "subsys", "ns", "port",
        "portunblock"].Nodup
      decide

/-- **No two agents of an endpoint share a name.** -/
theorem nodup_names {e : Endpoint p} {placements : List Placement} {service : List Agent}
    (h : serviceAgents e placements = .ok service)
    (hnodup : (e.volumes.map (·.number)).Nodup) :
    ((agentsAround e service placements).map (·.name)).Nodup := by
  rw [map_name_agentsAround h]
  exact nodup_flatMap_names (distinct_of_mem_agentFamilies hnodup) (nodup_stems e)

end Endpoint

end FailoverStorage

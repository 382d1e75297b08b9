import FailoverStorage.Cluster.Simulation
import FailoverStorage.Proofs.Data.SortedMap
import FailoverStorage.Proofs.Gateway.Action

/-!
# The actions of a simulated cluster

What each action of a cluster can do to its state, said once.  Reading, attaching and deleting come
to one or two cases.  Ensuring a resource either fails without a change, or defines what is missing
and then, if nothing is placed yet, places it or fails to (`Cluster.ensureResource_outcome`).

`Cluster.SameOutside path name` relates states that differ at most in the configuration at one path,
if one is given, and in the resource of one name, apart from counters; it is what every action on
them respects.
-/

namespace FailoverStorage.Cluster

open FailoverStorage.Action

/-! ## Changes of one resource -/

@[simp] lemma find?_changeResource (c : Cluster) (name other : String)
    (f : ClusterResource → ClusterResource) :
    (c.changeResource name f).resources.find? other
      = if other = name then (c.resources.find? other).map f else c.resources.find? other := by
  simp [changeResource]

/-! ## States that differ in one place -/

/-- **States that agree but for one configuration, if any, and one resource**, and but for counters
and the reads that will fail. -/
structure SameOutside (path : Option String) (name : String) (s t : Cluster) : Prop where
  nodes : t.nodes = s.nodes
  groups : t.groups = s.groups
  transitionPolls : t.transitionPolls = s.transitionPolls
  stalled : t.stalled = s.stalled
  resources : ∀ other, other ≠ name → t.resources.find? other = s.resources.find? other
  configs : ∀ other, some other ≠ path → t.configs.find? other = s.configs.find? other

namespace SameOutside

variable {path : Option String} {name : String} {s t u : Cluster}

lemma refl (path : Option String) (name : String) (s : Cluster) : SameOutside path name s s :=
  ⟨rfl, rfl, rfl, rfl, fun _ _ => rfl, fun _ _ => rfl⟩

lemma trans (h : SameOutside path name s t) (h' : SameOutside path name t u) :
    SameOutside path name s u :=
  { nodes := h'.nodes.trans h.nodes
    groups := h'.groups.trans h.groups
    transitionPolls := h'.transitionPolls.trans h.transitionPolls
    stalled := h'.stalled.trans h.stalled
    resources := fun other hne => (h'.resources other hne).trans (h.resources other hne)
    configs := fun other hne => (h'.configs other hne).trans (h.configs other hne) }

lemma of_resources (hnodes : t.nodes = s.nodes) (hgroups : t.groups = s.groups)
    (hpolls : t.transitionPolls = s.transitionPolls) (hstalled : t.stalled = s.stalled)
    (hconfigs : t.configs = s.configs)
    (hresources : ∀ other, other ≠ name → t.resources.find? other = s.resources.find? other) :
    SameOutside path name s t :=
  ⟨hnodes, hgroups, hpolls, hstalled, hresources, fun _ _ => by rw [hconfigs]⟩

lemma countStorageWrite (h : SameOutside path name s t) :
    SameOutside path name s t.countStorageWrite :=
  ⟨h.nodes, h.groups, h.transitionPolls, h.stalled, h.resources, h.configs⟩

lemma countConfigWrite (h : SameOutside path name s t) :
    SameOutside path name s t.countConfigWrite :=
  ⟨h.nodes, h.groups, h.transitionPolls, h.stalled, h.resources, h.configs⟩

lemma changeResource (path : Option String) (name : String) (s : Cluster)
    (f : ClusterResource → ClusterResource) : SameOutside path name s (s.changeResource name f) :=
  of_resources rfl rfl rfl rfl rfl fun other hne => by rw [find?_changeResource, if_neg hne]

/-- Without a path no configuration differs. -/
lemma find?_configs (h : SameOutside none name s t) (other : String) :
    t.configs.find? other = s.configs.find? other :=
  h.configs other (Option.some_ne_none _)

/-- States that agree in all configurations agree in all but one. -/
lemma of_none (h : SameOutside none name s t) (path : Option String) : SameOutside path name s t :=
  { h with configs := fun other _ => h.find?_configs other }

end SameOutside

/-! ## Reading placements -/

/-- What the passing of time does to a resource, unless the cluster stands still. -/
def passTime (name : String) (c : Cluster) : Cluster :=
  if c.stalled then c else c.changeResource name advance

/-- **Reading placements** fails if it was made to, and lets time pass if not. -/
lemma placements_cases (name : String) (s : Cluster) :
    (∃ n err, placements name s = (.error err, { s with failingPolls := n }))
      ∨ placements name s
        = (.ok ((((passTime name s).resources.find? name).map (·.placements)).getD []),
          passTime name s) := by
  rw [placements, bind_apply_ok (get_apply s)]
  cases s.failingPolls with
  | zero => exact .inr rfl
  | succ n => exact .inl ⟨n, _, rfl⟩

/-- A read on a cluster that is not held up. -/
lemma placements_of_find?_eq_some {name : String} {s : Cluster} {r : ClusterResource}
    (hstalled : s.stalled = false) (hpolls : s.failingPolls = 0)
    (hr : s.resources.find? name = some r) : placements name s
      = (.ok (advance r).placements, s.changeResource name advance) := by
  rw [placements, bind_apply_ok (get_apply s), hpolls]
  simp only [hstalled, Bool.false_eq_true, if_false]
  have hadvanced : (s.changeResource name advance).resources.find? name = some (advance r) := by
    rw [find?_changeResource, if_pos rfl, hr, Option.map_some]
  show (Except.ok _, _) = _
  rw [hadvanced]
  rfl

/-- A read while transitions stand still changes nothing. -/
lemma placements_of_stalled {name : String} {s : Cluster} {r : ClusterResource}
    (hstalled : s.stalled = true) (hpolls : s.failingPolls = 0)
    (hr : s.resources.find? name = some r) : placements name s = (.ok r.placements, s) := by
  rw [placements, bind_apply_ok (get_apply s), hpolls]
  simp only [hstalled, if_true]
  show (Except.ok (((s.resources.find? name).map (·.placements)).getD []), s) = _
  rw [hr]
  rfl

/-- Where a resource is demoted it is in use nowhere. -/
lemma any_isInUse_settle_false (ps : List Placement) :
    (settle false ps).any (·.isInUse) = false := by
  induction ps with
  | nil => rfl
  | cons p rest ih =>
      rw [settle, List.any_cons, Bool.false_and, Bool.false_and, ih]
      rfl

/-- A resource is promoted on a node with a disk, if there is one. -/
lemma any_isInUse_settle_true {ps : List Placement} (h : ps.any (!·.diskless) = true) :
    (settle true ps).any (·.isInUse) = true := by
  induction ps with
  | nil => cases h
  | cons p rest ih =>
      rw [settle, List.any_cons]
      cases hdiskless : p.diskless with
      | false => rfl
      | true =>
          rw [List.any_cons, hdiskless] at h
          exact Bool.or_eq_true_iff.2 (.inr (ih h))

lemma settle_eq_nil_iff {promote : Bool} {ps : List Placement} :
    settle promote ps = [] ↔ ps = [] := by
  cases ps <;> simp [settle]

lemma sameOutside_passTime (path : Option String) (name : String) (s : Cluster) :
    SameOutside path name s (passTime name s) := by
  rw [passTime]
  split
  · exact .refl _ _ _
  · exact .changeResource _ _ _ _

lemma sameOutside_placements (path : Option String) (name : String) (s : Cluster) :
    SameOutside path name s (placements name s).2 := by
  rcases placements_cases name s with ⟨n, err, h⟩ | h
  · rw [h]
    exact .of_resources rfl rfl rfl rfl rfl fun _ _ => rfl
  · rw [h]
    exact sameOutside_passTime path name s

/-! ## Disk states -/

/-- A resource with one disk in another state. -/
def withDiskState (node : String) (number : UInt32) (state : DiskState) (r : ClusterResource) :
    ClusterResource :=
  { r with
    placements := changeFirst (·.nodeName = node) (setVolumeState number state) r.placements }

/-- **Setting a disk state** fails if the node has no such disk. -/
lemma setDiskState_cases (name node : String) (number : UInt32) (state : DiskState) (s : Cluster) :
    (∃ err, setDiskState name node number state s = (.error err, s))
      ∨ setDiskState name node number state s
        = (.ok (), s.changeResource name (withDiskState node number state)) := by
  rw [setDiskState, bind_apply_ok (get_apply s)]
  split
  · exact .inr rfl
  · exact .inl ⟨_, rfl⟩

lemma sameOutside_setDiskState (path : Option String) (name node : String) (number : UInt32)
    (state : DiskState) (s : Cluster) :
    SameOutside path name s (setDiskState name node number state s).2 := by
  rcases setDiskState_cases name node number state s with ⟨err, h⟩ | h
  · rw [h]
    exact .refl _ _ _
  · rw [h]
    exact .changeResource _ _ _ _

/-! ## Configurations -/

/-- Whether a configuration manages at most the resource of a name. -/
def Manages (config : PromoterConfig) (name : String) : Prop :=
  ∀ other, config.resources.contains other = true → other = name

/-- A resource that was told to be promoted or demoted, if a configuration lists it. -/
def scheduled (config : PromoterConfig) (name : String) (transition : Transition)
    (r : ClusterResource) : ClusterResource :=
  if config.resources.contains name then { r with transition := some transition } else r

lemma find?_schedule (config : PromoterConfig) (promote : Bool) (s : Cluster) (name : String) :
    (schedule config promote s).resources.find? name
      = (s.resources.find? name).map
        (scheduled config name { promote, pollsLeft := s.transitionPolls }) := by
  simp only [schedule, SortedMap.find?_mapValues]
  rfl

lemma sameOutside_schedule {config : PromoterConfig} {name : String} (h : Manages config name)
    (path : Option String) (promote : Bool) (s : Cluster) :
    SameOutside path name s (schedule config promote s) := by
  refine .of_resources rfl rfl rfl rfl rfl fun other hne => ?_
  have hcontains : config.resources.contains other = false := by
    rw [Bool.eq_false_iff]
    exact fun hc => hne (h other hc)
  simp [schedule, hcontains]

lemma sameOutside_insertConfig {path name : String} (s : Cluster) (text : ConfigText) :
    SameOutside (some path) name s { s with configs := s.configs.insert path text } :=
  ⟨rfl, rfl, rfl, rfl, fun _ _ => rfl, fun other hne => by
    rw [SortedMap.find?_insert, if_neg fun h => hne (congrArg some h)]⟩

lemma sameOutside_ensureConfig {config : PromoterConfig} {path : String}
    (hpath : config.path = path) (name : String) (s : Cluster) :
    SameOutside (some path) name s (ensureConfig config s).2 := by
  subst hpath
  exact (sameOutside_insertConfig s _).countConfigWrite

lemma sameOutside_attach {config : PromoterConfig} {path name : String}
    (hpath : config.path = path) (hname : Manages config name) (s : Cluster) :
    SameOutside (some path) name s (attach config s).2 := by
  subst hpath
  exact ((sameOutside_insertConfig s _).trans
    (sameOutside_schedule hname _ _ _)).countConfigWrite

lemma configs_ensureConfig (config : PromoterConfig) (s : Cluster) :
    (ensureConfig config s).2.configs = s.configs.insert config.path
      { content := config.toToml
        attached := ((s.configs.find? config.path).map (·.attached)).getD false } := rfl

/-- Storing what is stored already is only counted. -/
lemma ensureConfig_of_find?_eq_some {config : PromoterConfig} {s : Cluster} {text : ConfigText}
    (htext : s.configs.find? config.path = some text) (hcontent : text.content = config.toToml) :
    ensureConfig config s = (.ok (), s.countConfigWrite) := by
  have hsame : s.configs.insert config.path
      { content := config.toToml
        attached := ((s.configs.find? config.path).map (·.attached)).getD false } = s.configs := by
    refine SortedMap.insert_of_find? ?_
    rw [htext, ← hcontent]
    rfl
  show (Except.ok (), countConfigWrite { s with configs := s.configs.insert config.path _ }) = _
  rw [hsame]

lemma configs_attach (config : PromoterConfig) (s : Cluster) :
    (attach config s).2.configs
      = s.configs.insert config.path { content := config.toToml, attached := true } := rfl

/-- Detaching fails if nothing is stored. -/
lemma detach_cases (config : PromoterConfig) (s : Cluster) :
    (s.configs.find? config.path = none ∧ ∃ err, detach config s = (.error err, s))
      ∨ detach config s = (.ok (), (schedule config false
        { s with configs := s.configs.adjust config.path fun t => { t with attached := false } }
        ).countConfigWrite) := by
  rw [detach, bind_apply_ok (get_apply s)]
  split
  · exact .inr rfl
  · rename_i habsent
    refine .inl ⟨?_, _, rfl⟩
    rwa [SortedMap.contains, Bool.not_eq_true, Option.isSome_eq_false_iff,
      Option.isNone_iff_eq_none] at habsent

lemma sameOutside_detach {config : PromoterConfig} {path name : String}
    (hpath : config.path = path) (hname : Manages config name) (s : Cluster) :
    SameOutside (some path) name s (detach config s).2 := by
  subst hpath
  rcases detach_cases config s with ⟨-, err, h⟩ | h
  · rw [h]
    exact .refl _ _ _
  · have hadjust : SameOutside (some config.path) name s
        { s with configs := s.configs.adjust config.path fun t => { t with attached := false } } :=
      ⟨rfl, rfl, rfl, rfl, fun _ _ => rfl, fun other hne => by
        rw [SortedMap.find?_adjust, if_neg fun h => hne (congrArg some h)]⟩
    rw [h]
    exact (hadjust.trans (sameOutside_schedule hname _ _ _)).countConfigWrite

/-- Detaching leaves every text. -/
lemma content_detach (config : PromoterConfig) (s : Cluster) (path : String) :
    ((detach config s).2.configs.find? path).map (·.content)
      = (s.configs.find? path).map (·.content) := by
  rcases detach_cases config s with ⟨-, err, h⟩ | h
  · rw [h]
  · rw [h]
    simp only [countConfigWrite, schedule, SortedMap.find?_adjust]
    split
    · rw [Option.map_map]
      rfl
    · rfl

/-- What deleting a configuration leaves. -/
def withoutConfig (id : String) (s : Cluster) : Cluster :=
  match s.configs.find? (PromoterConfig.pathOf id) with
  | none => s
  | some text =>
    let removed := { s with configs := s.configs.erase (PromoterConfig.pathOf id) }
    (match PromoterConfig.ofToml text.content with
      | .ok config => schedule config false removed
      | .error _ => removed).countConfigWrite

lemma deleteConfig_apply (id : String) (s : Cluster) :
    deleteConfig id s = (.ok (), withoutConfig id s) := rfl

lemma find?_withoutConfig (id : String) (s : Cluster) :
    (withoutConfig id s).configs.find? (PromoterConfig.pathOf id) = none := by
  rw [withoutConfig]
  cases htext : s.configs.find? (PromoterConfig.pathOf id) with
  | none => exact htext
  | some text =>
      simp only
      split
      · simp [countConfigWrite, schedule]
      · simp [countConfigWrite]

lemma sameOutside_deleteConfig {id name : String} (s : Cluster)
    (hname : ∀ text config, s.configs.find? (PromoterConfig.pathOf id) = some text →
      PromoterConfig.ofToml text.content = .ok config → Manages config name) :
    SameOutside (some (PromoterConfig.pathOf id)) name s (deleteConfig id s).2 := by
  rw [deleteConfig_apply, withoutConfig]
  cases htext : s.configs.find? (PromoterConfig.pathOf id) with
  | none => exact .refl _ _ _
  | some text =>
      have herase : SameOutside (some (PromoterConfig.pathOf id)) name s
          { s with configs := s.configs.erase (PromoterConfig.pathOf id) } :=
        ⟨rfl, rfl, rfl, rfl, fun _ _ => rfl, fun other hne => by
          rw [SortedMap.find?_erase, if_neg fun h => hne (congrArg some h)]⟩
      simp only
      split
      · rename_i config hconfig
        exact (herase.trans
          (sameOutside_schedule (hname text config htext hconfig) _ _ _)).countConfigWrite
      · exact herase.countConfigWrite

/-- The configuration of an id, given its text. -/
def readStored (id : String) : Option ConfigText → Except Error (Option StoredConfig)
  | none => .ok none
  | some text => (fun config =>
      some { config, path := PromoterConfig.pathOf id, attached := text.attached })
    <$> PromoterConfig.ofToml text.content

/-- The stored configuration of an id is what its text reads as. -/
lemma findConfig_apply (id : String) (s : Cluster) :
    findConfig id s = (readStored id (s.configs.find? (PromoterConfig.pathOf id)), s) := by
  rw [findConfig, bind_apply_ok (get_apply s)]
  cases htext : s.configs.find? (PromoterConfig.pathOf id) with
  | none => rfl
  | some text =>
      have hread : Action.ofExcept (PromoterConfig.ofToml text.content) s
          = (PromoterConfig.ofToml text.content, s) := rfl
      simp only [readStored]
      cases hconfig : PromoterConfig.ofToml text.content with
      | error err =>
          rw [hconfig] at hread
          exact bind_apply_error hread _
      | ok config =>
          rw [hconfig] at hread
          exact bind_apply_ok hread _

lemma readOnly_findConfig (id : String) : ReadOnly (findConfig id) := fun s => by
  rw [findConfig_apply]

lemma readOnly_listConfigs : ReadOnly listConfigs := fun _ => rfl

/-- What is deployed under a name. -/
def deployment (name : String) (s : Cluster) : DeployedState :=
  match s.resources.find? name with
  | none => {}
  | some r =>
    { definition := some r.definition
      group := s.groups.find? r.definition.resourceGroup
      volumeDefinitions := r.volumes.values
      placements := r.placements }

lemma deployed_apply (name : String) (s : Cluster) :
    deployed name s = (.ok (deployment name s), s) := by
  rw [deployed, deployment, bind_apply_ok (get_apply s)]
  cases s.resources.find? name <;> rfl

lemma readOnly_deployed (name : String) : ReadOnly (deployed name) := by
  intro s
  rw [deployed_apply]

/-! ## Deleting storage -/

/-- **Deleting a resource** removes it, unless it is absent or in use. -/
lemma deleteResource_cases (name : String) (s : Cluster) :
    ((∀ r, s.resources.find? name = some r → r.placements.any (·.isInUse) = true)
        ∧ ∃ err, deleteResource name s = (.error err, s))
      ∨ ∃ r, s.resources.find? name = some r ∧ r.placements.any (·.isInUse) = false
        ∧ deleteResource name s
          = (.ok (), { s with resources := s.resources.erase name }.countStorageWrite) := by
  rw [deleteResource, bind_apply_ok (get_apply s)]
  cases hr : s.resources.find? name with
  | none => exact .inl ⟨fun _ h => (nomatch h), _, rfl⟩
  | some r =>
      simp only
      split
      · rename_i huse
        refine .inl ⟨fun _ h => ?_, _, rfl⟩
        cases h
        exact huse
      · rename_i hfree
        exact .inr ⟨r, rfl, by simpa using hfree, rfl⟩

lemma sameOutside_deleteResource (path : Option String) (name : String) (s : Cluster) :
    SameOutside path name s (deleteResource name s).2 := by
  rcases deleteResource_cases name s with ⟨-, err, h⟩ | ⟨r, -, -, h⟩
  · rw [h]
    exact .refl _ _ _
  · have herase : SameOutside path name s { s with resources := s.resources.erase name } :=
      .of_resources rfl rfl rfl rfl rfl fun other hne => by
        rw [SortedMap.find?_erase, if_neg hne]
    rw [h]
    exact herase.countStorageWrite

/-- A resource without one of its volumes. -/
def removeVolume (number : UInt32) (r : ClusterResource) : ClusterResource :=
  { r with
    volumes := r.volumes.erase number
    placements := r.placements.map fun p =>
      { p with volumes := p.volumes.filter (·.number ≠ number) } }

/-- **Deleting a volume** removes it, unless it is not defined. -/
lemma deleteVolume_cases (name : String) (number : UInt32) (s : Cluster) :
    ((∀ r, s.resources.find? name = some r → r.volumes.contains number = false)
        ∧ ∃ err, deleteVolume name number s = (.error err, s))
      ∨ ∃ r, s.resources.find? name = some r ∧ r.volumes.contains number = true
        ∧ deleteVolume name number s
          = (.ok (), (s.changeResource name (removeVolume number)).countStorageWrite) := by
  rw [deleteVolume, bind_apply_ok (get_apply s)]
  cases hr : s.resources.find? name with
  | none => exact .inl ⟨fun _ h => (nomatch h), _, rfl⟩
  | some r =>
      simp only [Option.any_some]
      split
      · rename_i hcontains
        exact .inr ⟨r, rfl, hcontains, rfl⟩
      · rename_i hcontains
        refine .inl ⟨fun _ h => ?_, _, rfl⟩
        cases h
        simpa using hcontains

lemma sameOutside_deleteVolume (path : Option String) (name : String) (number : UInt32)
    (s : Cluster) : SameOutside path name s (deleteVolume name number s).2 := by
  rcases deleteVolume_cases name number s with ⟨-, err, h⟩ | ⟨r, -, -, h⟩
  · rw [h]
    exact .refl _ _ _
  · rw [h]
    exact (SameOutside.changeResource _ _ _ _).countStorageWrite

/-! ## Ensuring a resource -/

/-- A cluster in which the definition that a request names is there and carries its properties. -/
def prepared (request : ResourceRequest) (group : ResourceGroup) (s : Cluster) : Cluster :=
  match s.resources.find? request.name with
  | some r => updateProperties request r s
  | none => defineResource request group s

/-- A cluster in which missing volumes of a request are defined. -/
def defined (request : ResourceRequest) (missing : List Volume) (s : Cluster) : Cluster :=
  missing.foldl (fun c v => defineVolume request.name (request.volumeDefinition v) c) s

/-- A resource placed on nodes, on the devices from a number on. -/
def onNodes (name : String) (minor : Nat) (nodes : List String) (r : ClusterResource) :
    ClusterResource :=
  { r with placements := newPlacements name r.volumes.keys minor nodes }

/-- A cluster in which a resource is placed on its first nodes. -/
def placed (name : String) (count : Nat) (s : Cluster) : Cluster :=
  let nodes := s.nodes.take count
  let numbers := ((s.resources.find? name).map (·.volumes.keys)).getD []
  ({ s with nextMinor := s.nextMinor + nodes.length * numbers.length }.changeResource name
    fun r => { r with placements := newPlacements name numbers s.nextMinor nodes }
    ).countStorageWrite

/-- A resource with one more volume, on the devices from a number on. -/
def withVolume (d : VolumeDefinition) (minor : Nat) (r : ClusterResource) : ClusterResource :=
  { r with
    volumes := r.volumes.insert d.number d
    placements := extendPlacements d.number minor r.placements }

lemma find?_defineVolume (name other : String) (d : VolumeDefinition) (s : Cluster) :
    (defineVolume name d s).resources.find? other
      = if other = name then (s.resources.find? other).map (withVolume d s.nextMinor)
        else s.resources.find? other := by
  have hchange : (defineVolume name d s).resources
      = (s.changeResource name (withVolume d s.nextMinor)).resources := rfl
  rw [hchange, find?_changeResource]

lemma sameOutside_defineVolume (path : Option String) (name : String) (d : VolumeDefinition)
    (s : Cluster) : SameOutside path name s (defineVolume name d s) :=
  .of_resources rfl rfl rfl rfl rfl fun other hne => by
    rw [find?_defineVolume, if_neg hne]

/-- **Defining volumes step by step** keeps what every step keeps. -/
lemma defined_induction {request : ResourceRequest} {motive : Cluster → Prop}
    (hstep : ∀ v s, motive s → motive (defineVolume request.name (request.volumeDefinition v) s))
    (missing : List Volume) {s : Cluster} (hs : motive s) : motive (defined request missing s) := by
  induction missing generalizing s with
  | nil => exact hs
  | cons v missing ih => exact ih (hstep v s hs)

lemma exists_find?_defined {request : ResourceRequest} (missing : List Volume) {s : Cluster}
    (hs : ∃ r, s.resources.find? request.name = some r) :
    ∃ r, (defined request missing s).resources.find? request.name = some r := by
  refine defined_induction (motive := fun s => ∃ r, s.resources.find? request.name = some r)
    (fun v s hs => ?_) missing hs
  obtain ⟨r, hr⟩ := hs
  rw [find?_defineVolume, if_pos rfl, hr]
  exact ⟨_, rfl⟩

lemma exists_find?_prepared (request : ResourceRequest) (group : ResourceGroup) (s : Cluster) :
    ∃ r, (prepared request group s).resources.find? request.name = some r := by
  rw [prepared]
  cases hr : s.resources.find? request.name with
  | none =>
      simp only [defineResource, countStorageWrite, SortedMap.find?_insert, if_true]
      exact ⟨_, rfl⟩
  | some r =>
      simp only [updateProperties]
      split
      · exact ⟨r, hr⟩
      · simp only [countStorageWrite, find?_changeResource, if_true, hr, Option.map_some]
        exact ⟨_, rfl⟩

/-- **What is there to extend** is new, or has another definition at most. -/
lemma prepared_cases {request : ResourceRequest} {group : ResourceGroup} {s : Cluster}
    {r : ClusterResource}
    (hr : (prepared request group s).resources.find? request.name = some r) :
    (s.resources.find? request.name = none ∧ ∃ definition, r = { definition })
      ∨ ∃ old definition, s.resources.find? request.name = some old
        ∧ r = { old with definition } := by
  rw [prepared] at hr
  cases hold : s.resources.find? request.name with
  | none =>
      rw [hold] at hr
      cases ((SortedMap.find?_insert _ _ _ _).trans (if_pos rfl)).symm.trans hr
      exact .inl ⟨rfl, _, rfl⟩
  | some old =>
      simp only [hold, updateProperties] at hr
      split at hr
      · cases hold.symm.trans hr
        exact .inr ⟨r, r.definition, rfl, rfl⟩
      · have hchanged := (find?_changeResource s request.name request.name _).symm.trans hr
        rw [if_pos rfl, hold] at hchanged
        cases hchanged
        exact .inr ⟨old, _, rfl, rfl⟩

/-- What is missing for a request. -/
def Missing (request : ResourceRequest) (mayExtend : Bool) (s : Cluster)
    (missing : List Volume) : Prop :=
  match s.resources.find? request.name with
  | some r => request.missingVolumes r.volumes.values mayExtend = .ok missing
  | none => missing = request.volumes

/-- **How ensuring a resource can end.** -/
inductive EnsureOutcome (request : ResourceRequest) (mayExtend : Bool) (s : Cluster) :
    Except Error Deployment × Cluster → Prop where
  /-- The group is unknown, or the volumes conflict with those that exist: nothing changes. -/
  | refused (err : Error) : EnsureOutcome request mayExtend s (.error err, s)
  /-- What is missing is defined, and the resource was placed before. -/
  | extended {group : ResourceGroup} {missing : List Volume} {r : ClusterResource}
      (hgroup : s.groups.find? request.resourceGroup = some group)
      (hmissing : Missing request mayExtend s missing)
      (hr : (defined request missing (prepared request group s)).resources.find? request.name
        = some r)
      (hplaced : r.placements ≠ []) :
      EnsureOutcome request mayExtend s
        (.ok { definition := r.definition, group, placements := r.placements },
          defined request missing (prepared request group s))
  /-- What is missing is defined, but there are too few nodes to place the resource. -/
  | unplaced {group : ResourceGroup} {missing : List Volume} {r : ClusterResource}
      (hgroup : s.groups.find? request.resourceGroup = some group)
      (hmissing : Missing request mayExtend s missing)
      (hr : (defined request missing (prepared request group s)).resources.find? request.name
        = some r)
      (hplaced : r.placements = []) (err : Error) :
      EnsureOutcome request mayExtend s
        (.error err, defined request missing (prepared request group s))
  /-- What is missing is defined, and the resource is placed. -/
  | placed {group : ResourceGroup} {missing : List Volume} {r r' : ClusterResource}
      (hgroup : s.groups.find? request.resourceGroup = some group)
      (hmissing : Missing request mayExtend s missing)
      (hr : (defined request missing (prepared request group s)).resources.find? request.name
        = some r)
      (hplaced : r.placements = [])
      (hr' : (placed request.name group.replicas
        (defined request missing (prepared request group s))).resources.find? request.name
          = some r') :
      EnsureOutcome request mayExtend s
        (.ok { definition := r'.definition, group, placements := r'.placements },
          Cluster.placed request.name group.replicas
            (defined request missing (prepared request group s)))

/-- Placing fails without a change if there are too few nodes. -/
lemma place_cases (name : String) (count : Nat) (s : Cluster) :
    (∃ err, place name count s = (.error err, s))
      ∨ ∃ t, place name count s = (.ok ⟨⟩, t) ∧ t.countStorageWrite = placed name count s := by
  rw [place, bind_apply_ok (get_apply s)]
  split
  · exact .inl ⟨_, rfl⟩
  · exact .inr ⟨_, rfl, rfl⟩

lemma find?_placed (name other : String) (count : Nat) (s : Cluster) :
    (placed name count s).resources.find? other
      = if other = name
        then (s.resources.find? other).map (onNodes name s.nextMinor (s.nodes.take count))
        else s.resources.find? other := by
  simp only [placed, countStorageWrite, find?_changeResource]
  by_cases h : other = name
  · subst h
    rw [if_pos rfl, if_pos rfl]
    cases s.resources.find? other <;> rfl
  · rw [if_neg h, if_neg h]

lemma exists_find?_placed {name : String} (count : Nat) {s : Cluster}
    (hs : ∃ r, s.resources.find? name = some r) :
    ∃ r, (placed name count s).resources.find? name = some r := by
  obtain ⟨r, hr⟩ := hs
  rw [find?_placed, if_pos rfl, hr]
  exact ⟨_, rfl⟩

/-- The last steps of ensuring a resource, when its definition is there. -/
def finish (request : ResourceRequest) (group : ResourceGroup) (missing : List Volume) :
    Action Cluster Deployment := do
  modify (defined request missing)
  if (((← get).resources.find? request.name).map (·.placements.isEmpty)).getD false then
    place request.name group.replicas
    modify countStorageWrite
  match (← get).resources.find? request.name with
  | some r => return { definition := r.definition, group, placements := r.placements }
  | none => throw (.internal ("resource " ++ request.name ++ " vanished"))

lemma ensureResource_eq (request : ResourceRequest) (mayExtend : Bool) (s : Cluster) :
    ensureResource request mayExtend s
      = match s.groups.find? request.resourceGroup with
        | none => (.error (.notFound "resource-group" request.resourceGroup), s)
        | some group =>
          match s.resources.find? request.name with
          | some r =>
            match request.missingVolumes r.volumes.values mayExtend with
            | .error err => (.error err, s)
            | .ok missing => finish request group missing (updateProperties request r s)
          | none => finish request group request.volumes (defineResource request group s) := by
  unfold ensureResource
  rw [bind_apply_ok (get_apply s)]
  cases s.groups.find? request.resourceGroup with
  | none => rfl
  | some group =>
      cases s.resources.find? request.name with
      | none => rfl
      | some r =>
          have hread : Action.ofExcept (request.missingVolumes r.volumes.values mayExtend) s
              = (request.missingVolumes r.volumes.values mayExtend, s) := rfl
          simp only
          cases hmissing : request.missingVolumes r.volumes.values mayExtend with
          | error err =>
              rw [hmissing] at hread
              exact bind_apply_error hread _
          | ok missing =>
              rw [hmissing] at hread
              exact bind_apply_ok hread _

/-- How the last steps end, as far as it depends on the volumes that are defined before them. -/
lemma finish_cases {request : ResourceRequest} {group : ResourceGroup} {missing : List Volume}
    {s : Cluster} {r : ClusterResource}
    (hr : (defined request missing s).resources.find? request.name = some r) :
    (r.placements ≠ [] ∧ finish request group missing s
        = (.ok { definition := r.definition, group, placements := r.placements },
          defined request missing s))
      ∨ (r.placements = [] ∧ ∃ err, finish request group missing s
        = (.error err, defined request missing s))
      ∨ ∃ r', r.placements = []
        ∧ (placed request.name group.replicas (defined request missing s)).resources.find?
          request.name = some r'
        ∧ finish request group missing s
          = (.ok { definition := r'.definition, group, placements := r'.placements },
            placed request.name group.replicas (defined request missing s)) := by
  rw [finish, bind_apply_ok (modify_apply _ s), bind_apply_ok (get_apply _)]
  simp only [hr, Option.map_some, Option.getD_some]
  by_cases hempty : r.placements = []
  · simp only [hempty, List.isEmpty_nil, if_true]
    rcases place_cases request.name group.replicas (defined request missing s) with
      ⟨err, hplace⟩ | ⟨t, hplace, ht⟩
    · exact .inr (.inl ⟨trivial, err, bind_apply_error hplace _⟩)
    · obtain ⟨r', hr'⟩ := exists_find?_placed group.replicas ⟨r, hr⟩
      refine .inr (.inr ⟨r', trivial, hr', ?_⟩)
      rw [bind_apply_ok hplace, bind_apply_ok (modify_apply _ t), ht, bind_apply_ok (get_apply _)]
      simp only [hr']
      rfl
  · have hne : r.placements.isEmpty = false := by simpa using hempty
    refine .inl ⟨hempty, ?_⟩
    simp only [hne, Bool.false_eq_true, if_false]
    rw [bind_apply_ok (get_apply _)]
    simp only [hr]
    rfl

/-- **Ensuring a resource** fails without a change, or defines what is missing; then, if nothing is
placed yet, it places the resource or fails to. -/
theorem ensureResource_outcome (request : ResourceRequest) (mayExtend : Bool) (s : Cluster) :
    EnsureOutcome request mayExtend s (ensureResource request mayExtend s) := by
  rw [ensureResource_eq]
  cases hgroup : s.groups.find? request.resourceGroup with
  | none => exact .refused _
  | some group =>
      -- whatever was prepared, the last steps end in one of three ways
      have hfinish : ∀ missing t, t = prepared request group s →
          Missing request mayExtend s missing →
          EnsureOutcome request mayExtend s (finish request group missing t) := by
        rintro missing t rfl hmissing
        obtain ⟨r, hr⟩ := exists_find?_defined missing (exists_find?_prepared request group s)
        rcases finish_cases hr with ⟨hplaced, h⟩ | ⟨hplaced, err, h⟩ | ⟨r', hplaced, hr', h⟩
        · rw [h]
          exact .extended hgroup hmissing hr hplaced
        · rw [h]
          exact .unplaced hgroup hmissing hr hplaced err
        · rw [h]
          exact .placed hgroup hmissing hr hplaced hr'
      cases hr : s.resources.find? request.name with
      | none => exact hfinish _ _ (by rw [prepared, hr]) (by rw [Missing, hr])
      | some r =>
          simp only
          cases hmissing : request.missingVolumes r.volumes.values mayExtend with
          | error err => exact .refused err
          | ok missing =>
              refine hfinish _ _ (by rw [prepared, hr]) ?_
              rw [Missing, hr]
              exact hmissing

lemma sameOutside_insertResource (path : Option String) (name : String) (s : Cluster)
    (r : ClusterResource) :
    SameOutside path name s { s with resources := s.resources.insert name r } :=
  .of_resources rfl rfl rfl rfl rfl fun other hne => by rw [SortedMap.find?_insert, if_neg hne]

lemma sameOutside_prepared (path : Option String) (request : ResourceRequest)
    (group : ResourceGroup) (s : Cluster) :
    SameOutside path request.name s (prepared request group s) := by
  rw [prepared]
  split
  · rw [updateProperties]
    split
    · exact .refl _ _ _
    · exact (SameOutside.changeResource _ _ _ _).countStorageWrite
  · exact (sameOutside_insertResource _ _ _ _).countStorageWrite

lemma sameOutside_defined (path : Option String) (request : ResourceRequest)
    (missing : List Volume) (s : Cluster) :
    SameOutside path request.name s (defined request missing s) :=
  defined_induction (motive := SameOutside path request.name s)
    (fun _ _ h => h.trans (sameOutside_defineVolume _ _ _ _)) missing (.refl _ _ _)

lemma sameOutside_placed (path : Option String) (name : String) (count : Nat) (s : Cluster) :
    SameOutside path name s (placed name count s) :=
  .of_resources rfl rfl rfl rfl rfl fun other hne => by rw [find?_placed, if_neg hne]

lemma sameOutside_ensureResource (path : Option String) (request : ResourceRequest)
    (mayExtend : Bool) (s : Cluster) :
    SameOutside path request.name s (ensureResource request mayExtend s).2 := by
  have hdefined : ∀ group missing, SameOutside path request.name s
      (defined request missing (prepared request group s)) := fun group missing =>
    (sameOutside_prepared path request group s).trans (sameOutside_defined path request missing _)
  have houtcome := ensureResource_outcome request mayExtend s
  revert houtcome
  generalize ensureResource request mayExtend s = outcome
  rintro (err | _ | _ | _)
  · exact .refl _ _ _
  · exact hdefined _ _
  · exact hdefined _ _
  · exact (hdefined _ _).trans (sameOutside_placed _ _ _ _)

end FailoverStorage.Cluster

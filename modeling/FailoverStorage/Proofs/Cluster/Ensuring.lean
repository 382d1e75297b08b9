import FailoverStorage.Proofs.Cluster.Soundness

/-!
# What ensuring a resource leaves

`Cluster.ensureResource_cases` says that a resource is sound after it was ensured.  This module says
which definition and which volumes it has then (`Cluster.ensureResource_find?`): the definition that
was there with the requested properties, or a new one with the name of the group; and the volumes
that were there with the missing ones.

Where volumes may not be added, nothing is missing of a resource that exists
(`ResourceRequest.missingAmong_false_eq_ok`).  So such a request leaves the volumes of an existing
resource alone, and it keeps the group with which the resource was created.

No request leaves a resource without placements that had some
(`Cluster.placements_ensureResource`).
-/

namespace FailoverStorage

/-! ## Requests that may not extend -/

namespace ResourceRequest

/-- **What exists meets a request**: each requested volume exists with its size. -/
def MetBy (request : ResourceRequest) (existing : List VolumeDefinition) : Prop :=
  ∀ v ∈ request.volumes, ∃ d, existing.find? (·.number = v.number) = some d
    ∧ d.sizeKib = v.sizeKib

/-- **Nothing is missing** exactly if each requested volume exists with its size. -/
lemma missingAmong_eq_nil_iff {name : String} {existing : List VolumeDefinition} {mayExtend : Bool}
    {volumes : List Volume} : missingAmong name existing mayExtend volumes = .ok []
      ↔ ∀ v ∈ volumes, ∃ d, existing.find? (·.number = v.number) = some d
        ∧ d.sizeKib = v.sizeKib := by
  rw [missingAmong_eq_ok_iff]
  constructor
  · rintro ⟨hnone, hsizes, -⟩ v hv
    have hfound := List.filter_eq_nil_iff.1 hnone.symm v hv
    rw [Option.isNone_iff_eq_none, ← ne_eq, Option.ne_none_iff_exists'] at hfound
    obtain ⟨d, hd⟩ := hfound
    exact ⟨d, hd, hsizes v hv d hd⟩
  · intro h
    refine ⟨(List.filter_eq_nil_iff.2 fun v hv => ?_).symm, fun v hv d hd => ?_, fun _ => rfl⟩
    · obtain ⟨d, hd, -⟩ := h v hv
      simp [hd]
    · obtain ⟨d', hd', hsize⟩ := h v hv
      cases hd.symm.trans hd'
      exact hsize

/-- **Without extending, nothing is missing**: each requested volume exists with its size. -/
lemma missingAmong_false_eq_ok {name : String} {existing : List VolumeDefinition}
    {volumes missing : List Volume}
    (h : missingAmong name existing false volumes = .ok missing) :
    missing = [] ∧ ∀ v ∈ volumes, ∃ d, existing.find? (·.number = v.number) = some d
      ∧ d.sizeKib = v.sizeKib := by
  obtain rfl := (missingAmong_eq_ok_iff.1 h).2.2 rfl
  exact ⟨rfl, missingAmong_eq_nil_iff.1 h⟩

/-- Without extending, a volume that exists with another size or not at all is a conflict. -/
lemma missingAmong_false_cases (name : String) (existing : List VolumeDefinition)
    (volumes : List Volume) :
    missingAmong name existing false volumes = .ok []
      ∨ ∃ reason, missingAmong name existing false volumes = .error (.conflict reason)
        ∧ ∃ v ∈ volumes, ∀ d, existing.find? (·.number = v.number) = some d →
          d.sizeKib ≠ v.sizeKib := by
  induction volumes with
  | nil => exact .inl rfl
  | cons v rest ih =>
      rw [missingAmong]
      cases hfind : existing.find? (·.number = v.number) with
      | none => exact .inr ⟨_, rfl, v, List.mem_cons_self, fun d hd => by
          rw [hfind] at hd
          cases hd⟩
      | some d =>
          simp only
          split
          · refine ih.imp_right ?_
            rintro ⟨reason, hreason, w, hw, hdiffers⟩
            exact ⟨reason, hreason, w, List.mem_cons_of_mem v hw, hdiffers⟩
          · rename_i hsize
            exact .inr ⟨_, rfl, v, List.mem_cons_self, fun d' hd' => by
              rw [hfind] at hd'
              cases hd'
              exact hsize⟩

/-- **Without extending, nothing is missing of what meets a request**, and what does not is a
conflict. -/
lemma missingVolumes_false (request : ResourceRequest) (existing : List VolumeDefinition) :
    (request.MetBy existing ∧ request.missingVolumes existing false = .ok [])
      ∨ (¬ request.MetBy existing
        ∧ ∃ reason, request.missingVolumes existing false = .error (.conflict reason)) := by
  rcases missingAmong_false_cases request.name existing request.volumes with
    hmet | ⟨reason, hreason, v, hv, hdiffers⟩
  · exact .inl ⟨(missingAmong_false_eq_ok hmet).2, hmet⟩
  · refine .inr ⟨fun hmet => ?_, reason, hreason⟩
    obtain ⟨d, hd, hsize⟩ := hmet v hv
    exact hdiffers d hd hsize

/-- Volume definitions with those of further volumes of a request. -/
def withVolumes (request : ResourceRequest) (missing : List Volume)
    (volumes : SortedMap UInt32 VolumeDefinition) : SortedMap UInt32 VolumeDefinition :=
  missing.foldl (fun m v => m.insert v.number (request.volumeDefinition v)) volumes

/-- Among volumes with numbers of their own each has the definition that is made for it. -/
lemma find?_withVolumes {request : ResourceRequest} {missing : List Volume}
    (hnodup : (missing.map (·.number)).Nodup) (volumes : SortedMap UInt32 VolumeDefinition)
    (number : UInt32) : (request.withVolumes missing volumes).find? number
      = ((missing.find? (·.number = number)).map request.volumeDefinition).or
        (volumes.find? number) := by
  induction missing generalizing volumes with
  | nil => rfl
  | cons v rest ih =>
      obtain ⟨hv, hnodup⟩ := List.nodup_cons.1 hnodup
      rw [withVolumes, List.foldl_cons, ← withVolumes, ih hnodup, SortedMap.find?_insert,
        List.find?_cons]
      by_cases hn : v.number = number
      · have hrest : rest.find? (·.number = number) = none := by
          refine List.find?_eq_none.2 fun w hw => ?_
          simp only [decide_eq_true_eq]
          exact fun heq => hv (List.mem_map.2 ⟨w, hw, heq.trans hn.symm⟩)
        simp [hn, hrest]
      · simp [hn, Ne.symm hn]

/-- **The definition that a request leads to**, given what is defined: a new one is of the group
that was found, one that exists keeps its group and takes on the requested properties. -/
def definitionFrom (request : ResourceRequest) (group : ResourceGroup) :
    Option ResourceDefinition → ResourceDefinition
  | none =>
    { name := request.name, resourceGroup := group.name, properties := request.properties }
  | some d =>
    { d with properties := d.properties.override (request.changedProperties d.properties) }

/-- A property of the definition is requested or was there. -/
lemma find?_properties_definitionFrom {request : ResourceRequest} {group : ResourceGroup}
    {definition? : Option ResourceDefinition} {key value : String}
    (h : (request.definitionFrom group definition?).properties.find? key = some value) :
    request.properties.find? key = some value
      ∨ ∃ d, definition? = some d ∧ d.properties.find? key = some value := by
  cases definition? with
  | none => exact .inl h
  | some d =>
      rw [definitionFrom, SortedMap.find?_override, Option.or_eq_some_iff] at h
      rcases h with h | ⟨-, h⟩
      · rw [changedProperties, SortedMap.find?_filter, Option.filter_eq_some_iff] at h
        exact .inl h.1
      · exact .inr ⟨d, rfl, h⟩

/-- What is requested is a property of the definition. -/
lemma find?_definitionFrom_of_requested {request : ResourceRequest} {group : ResourceGroup}
    (definition? : Option ResourceDefinition) {key value : String}
    (h : request.properties.find? key = some value) :
    (request.definitionFrom group definition?).properties.find? key = some value := by
  cases definition? with
  | none => exact h
  | some d => exact request.find?_override_changedProperties d.properties h

end ResourceRequest

/-! ## Ensuring a resource -/

namespace Cluster

variable {request : ResourceRequest} {group : ResourceGroup} {s : Cluster} {r : ClusterResource}

/-- Once the group and what is missing are known, only the last steps are left. -/
lemma ensureResource_eq_finish {mayExtend : Bool} {missing : List Volume}
    (hgroup : s.groups.find? request.resourceGroup = some group)
    (hmissing : Missing request mayExtend s missing) :
    ensureResource request mayExtend s
      = finish request group missing (prepared request group s) := by
  rw [Missing] at hmissing
  rw [ensureResource_eq, hgroup, prepared]
  cases hr : s.resources.find? request.name with
  | none =>
      simp only [hr] at hmissing
      simp only [hmissing]
  | some r =>
      simp only [hr] at hmissing
      simp only [hmissing]

/-- Bringing the properties of a resource towards a request changes its definition only. -/
lemma find?_updateProperties (group : ResourceGroup)
    (hr : s.resources.find? request.name = some r) :
    (updateProperties request r s).resources.find? request.name
      = some { r with definition := request.definitionFrom group (some r.definition) } := by
  rw [updateProperties]
  simp only
  split
  · rename_i hempty
    have hsame : r.definition.properties.override
        (request.changedProperties r.definition.properties) = r.definition.properties := by
      rw [SortedMap.override, List.isEmpty_iff.1 hempty]
      rfl
    rw [hr, ResourceRequest.definitionFrom, hsame]
  · exact (find?_changeResource _ _ _ _).trans ((if_pos rfl).trans (congrArg (Option.map _) hr))

lemma find?_prepared_definition (request : ResourceRequest) (group : ResourceGroup) (s : Cluster) :
    ∃ r, (prepared request group s).resources.find? request.name = some r
      ∧ r.definition = request.definitionFrom group
        ((s.resources.find? request.name).map (·.definition))
      ∧ r.volumes = existingVolumes request s ∧ r.placements = existingPlacements request s := by
  rw [prepared, existingVolumes, existingPlacements]
  cases hr : s.resources.find? request.name with
  | none => exact ⟨_, (SortedMap.find?_insert _ _ _ _).trans (if_pos rfl), rfl, rfl, rfl⟩
  | some r => exact ⟨_, find?_updateProperties group hr, rfl, rfl, rfl⟩

lemma find?_defined_definition (missing : List Volume)
    (hr : s.resources.find? request.name = some r) :
    ∃ r', (defined request missing s).resources.find? request.name = some r'
      ∧ r'.definition = r.definition ∧ r'.volumes = request.withVolumes missing r.volumes
      ∧ (r.placements = [] → r'.placements = []) := by
  induction missing generalizing s r with
  | nil => exact ⟨r, hr, rfl, rfl, id⟩
  | cons v rest ih =>
      have hstep : (defineVolume request.name (request.volumeDefinition v) s).resources.find?
          request.name = some (withVolume (request.volumeDefinition v) s.nextMinor r) := by
        rw [find?_defineVolume, if_pos rfl, hr, Option.map_some]
      obtain ⟨r', hr', hdefinition, hvolumes, hplacements⟩ := ih hstep
      refine ⟨r', hr', hdefinition, hvolumes, fun hempty => hplacements ?_⟩
      rw [withVolume, hempty]
      rfl

/-- **Ensuring a resource** fails without a change, or leaves the definition that the request leads
to and the volumes that were there with the missing ones. -/
theorem ensureResource_find? (request : ResourceRequest) (mayExtend : Bool) (s : Cluster) :
    (∃ err, ensureResource request mayExtend s = (.error err, s))
      ∨ ∃ group missing r, s.groups.find? request.resourceGroup = some group
        ∧ Missing request mayExtend s missing
        ∧ (ensureResource request mayExtend s).2.resources.find? request.name = some r
        ∧ r.definition = request.definitionFrom group
          ((s.resources.find? request.name).map (·.definition))
        ∧ r.volumes = request.withVolumes missing (existingVolumes request s) := by
  have hdefined : ∀ group missing, ∃ r,
      (defined request missing (prepared request group s)).resources.find? request.name = some r
        ∧ r.definition = request.definitionFrom group
          ((s.resources.find? request.name).map (·.definition))
        ∧ r.volumes = request.withVolumes missing (existingVolumes request s) := by
    intro group missing
    obtain ⟨r, hr, hdefinition, hvolumes, -⟩ := find?_prepared_definition request group s
    obtain ⟨r', hr', hdefinition', hvolumes', -⟩ := find?_defined_definition missing hr
    exact ⟨r', hr', hdefinition'.trans hdefinition, hvolumes'.trans (hvolumes ▸ rfl)⟩
  have houtcome := ensureResource_outcome request mayExtend s
  revert houtcome
  generalize ensureResource request mayExtend s = outcome
  rintro (⟨err⟩ | @⟨group, missing, -, hgroup, hmissing⟩ | @⟨group, missing, -, hgroup, hmissing⟩
    | @⟨group, missing, -, r', hgroup, hmissing, -, -, hr'⟩)
  · exact .inl ⟨err, rfl⟩
  all_goals obtain ⟨r, hr, hdefinition, hvolumes⟩ := hdefined group missing
  · exact .inr ⟨group, missing, r, hgroup, hmissing, hr, hdefinition, hvolumes⟩
  · exact .inr ⟨group, missing, r, hgroup, hmissing, hr, hdefinition, hvolumes⟩
  · have hnodes := hr'
    rw [find?_placed, if_pos rfl, hr] at hnodes
    cases hnodes
    exact .inr ⟨group, missing, _, hgroup, hmissing, hr', hdefinition, hvolumes⟩

/-- **A request that may not extend leaves the volumes of what exists**, and its group. -/
lemma ensureResource_false_find? (hr : s.resources.find? request.name = some r) :
    ∃ r', (ensureResource request false s).2.resources.find? request.name = some r'
      ∧ r'.volumes = r.volumes
      ∧ r'.definition.resourceGroup = r.definition.resourceGroup := by
  rcases ensureResource_find? request false s with
    ⟨err, h⟩ | ⟨group, missing, r', -, hmissing, hr', hdefinition, hvolumes⟩
  · rw [h]
    exact ⟨r, hr, rfl, rfl⟩
  · rw [Missing, hr] at hmissing
    obtain ⟨rfl, -⟩ := ResourceRequest.missingAmong_false_eq_ok hmissing
    refine ⟨r', hr', ?_, ?_⟩
    · rw [hvolumes, existingVolumes, hr]
      rfl
    · rw [hdefinition, hr]
      rfl

/-- **What ensuring a resource comes to for it**: it is new or gets another definition, volumes are
added one by one, and if it is placed nowhere, it may be placed.  What each of these keeps, ensuring
keeps. -/
theorem ensureResource_induction {motive : ClusterResource → Prop}
    (hnew : ∀ definition, motive { definition })
    (hdefinition : ∀ r definition, motive r → motive { r with definition })
    (hvolume : ∀ r d minor, motive r → motive (withVolume d minor r))
    (hnodes : ∀ r minor nodes, motive r → r.placements = [] →
      motive (onNodes request.name minor nodes r)) (mayExtend : Bool)
    (hs : ∀ r, s.resources.find? request.name = some r → motive r) :
    ∀ r, (ensureResource request mayExtend s).2.resources.find? request.name = some r →
      motive r := by
  have hprepared : ∀ group r,
      (prepared request group s).resources.find? request.name = some r → motive r := by
    intro group r hr
    rcases prepared_cases hr with ⟨-, definition, rfl⟩ | ⟨old, definition, hold, rfl⟩
    · exact hnew definition
    · exact hdefinition old definition (hs old hold)
  have hdefined : ∀ group missing r,
      (defined request missing (prepared request group s)).resources.find? request.name = some r →
        motive r := by
    intro group missing
    refine defined_induction
      (motive := fun t => ∀ r, t.resources.find? request.name = some r → motive r)
      (fun v t ht r hr => ?_) missing (hprepared group)
    rw [find?_defineVolume, if_pos rfl] at hr
    obtain ⟨old, hold, rfl⟩ := Option.map_eq_some_iff.1 hr
    exact hvolume old _ _ (ht old hold)
  have houtcome := ensureResource_outcome request mayExtend s
  revert houtcome
  generalize ensureResource request mayExtend s = outcome
  rintro (_ | _ | _ | ⟨-, -, hr, hempty, -⟩) r hafter
  · exact hs r hafter
  · exact hdefined _ _ r hafter
  · exact hdefined _ _ r hafter
  · rw [find?_placed, if_pos rfl, hr] at hafter
    cases hafter
    exact hnodes _ _ _ (hdefined _ _ _ hr) hempty

/-! ## An existing resource -/

lemma ensureResource_of_metBy (request : ResourceRequest)
    (hgroup : s.groups.find? request.resourceGroup = some group)
    (hr : s.resources.find? request.name = some r) (hmet : request.MetBy r.volumes.values)
    (mayExtend : Bool) : ensureResource request mayExtend s
      = finish request group [] (updateProperties request r s) := by
  have hmissing : Missing request mayExtend s [] := by
    rw [Missing, hr]
    exact ResourceRequest.missingAmong_eq_nil_iff.2 hmet
  rw [ensureResource_eq_finish hgroup hmissing, prepared, hr]

/-- **A placed resource that meets a request is returned** with the requested properties; its
volumes and placements stay. -/
theorem exists_ensureResource_of_metBy (request : ResourceRequest)
    (hgroup : s.groups.find? request.resourceGroup = some group)
    (hr : s.resources.find? request.name = some r) (hmet : request.MetBy r.volumes.values)
    (hplaced : r.placements ≠ []) :
    ∃ r' t, ensureResource request false s
        = (.ok { definition := r'.definition, group, placements := r'.placements }, t)
      ∧ t.resources.find? request.name = some r' ∧ r'.volumes = r.volumes
      ∧ r'.placements = r.placements ∧ t.failingPolls = s.failingPolls := by
  have hupdated := find?_updateProperties group hr
  rw [ensureResource_of_metBy request hgroup hr hmet false]
  rcases @finish_cases request group [] _ _ hupdated with
    ⟨-, hfinish⟩ | ⟨hempty, -⟩ | ⟨_, hempty, -⟩
  · refine ⟨_, _, hfinish, hupdated, rfl, rfl, ?_⟩
    show (updateProperties request r s).failingPolls = s.failingPolls
    rw [updateProperties]
    simp only
    split <;> rfl
  · exact absurd hempty hplaced
  · exact absurd hempty hplaced

/-! ## A new resource -/

/-- Placing succeeds if there are enough nodes. -/
lemma place_eq_ok (name : String) {count : Nat} {s : Cluster} (h : count ≤ s.nodes.length) :
    ∃ t, place name count s = (.ok ⟨⟩, t) ∧ t.countStorageWrite = placed name count s := by
  rw [place, Action.bind_apply_ok (Action.get_apply s)]
  simp only [if_neg (Nat.not_lt.2 h)]
  exact ⟨_, rfl, rfl⟩

/-- New placements have disks. -/
lemma any_disk_newPlacements {name : String} {numbers : List UInt32} {minor : Nat}
    {nodes : List String} (h : nodes ≠ []) :
    (newPlacements name numbers minor nodes).any (!·.diskless) = true := by
  cases nodes with
  | nil => exact absurd rfl h
  | cons node rest => rfl

/-- New placements are in use nowhere. -/
lemma any_isInUse_newPlacements {name : String} {numbers : List UInt32} {minor : Nat}
    {nodes : List String} :
    (newPlacements name numbers minor nodes).any (·.isInUse) = false := by
  induction nodes generalizing minor with
  | nil => rfl
  | cons node rest ih => rw [newPlacements, List.any_cons, ih, Bool.or_false]; rfl

/-- The last steps of ensuring a resource that is not placed, with enough nodes. -/
lemma finish_eq_ok {missing : List Volume}
    (hr : (defined request missing s).resources.find? request.name = some r)
    (hempty : r.placements = [])
    (hnodes : group.replicas ≤ (defined request missing s).nodes.length) :
    finish request group missing s
      = (.ok
          { definition := r.definition, group
            placements := newPlacements request.name r.volumes.keys
              (defined request missing s).nextMinor
              ((defined request missing s).nodes.take group.replicas) },
        placed request.name group.replicas (defined request missing s)) := by
  obtain ⟨t, hplace, ht⟩ := place_eq_ok request.name hnodes
  have hplaced := find?_placed request.name request.name group.replicas (defined request missing s)
  rw [if_pos rfl, hr, Option.map_some] at hplaced
  rw [finish, Action.bind_apply_ok (Action.modify_apply _ s),
    Action.bind_apply_ok (Action.get_apply _)]
  simp only [hr, Option.map_some, Option.getD_some, hempty, List.isEmpty_nil, if_true]
  rw [Action.bind_apply_ok hplace, Action.bind_apply_ok (Action.modify_apply _ t), ht,
    Action.bind_apply_ok (Action.get_apply _)]
  simp only [hplaced]
  rfl

/-- **Ensuring a resource that does not exist** succeeds on a cluster with enough nodes, and places
it on the first of them. -/
theorem ensureResource_new (request : ResourceRequest)
    (hgroup : s.groups.find? request.resourceGroup = some group)
    (hnone : s.resources.find? request.name = none) (hnodes : group.replicas ≤ s.nodes.length)
    (mayExtend : Bool) :
    ∃ t r minor, ensureResource request mayExtend s
        = (.ok { definition := r.definition, group, placements := r.placements }, t)
      ∧ t.resources.find? request.name = some r
      ∧ r.definition = request.definitionFrom group none
      ∧ r.volumes = request.withVolumes request.volumes .empty
      ∧ r.placements
        = newPlacements request.name r.volumes.keys minor (s.nodes.take group.replicas)
      ∧ t.failingPolls = s.failingPolls := by
  have hprepared : prepared request group s = defineResource request group s := by
    rw [prepared, hnone]
  have hsame := (sameOutside_prepared none request group s).trans
    (sameOutside_defined none request request.volumes (prepared request group s))
  rw [hprepared] at hsame
  obtain ⟨r, hr, hdefinition, hvolumes, hempty⟩ :=
    find?_defined_definition (s := defineResource request group s) request.volumes
      ((SortedMap.find?_insert _ _ _ _).trans (if_pos rfl))
  have hplaced := find?_placed request.name request.name group.replicas
    (defined request request.volumes (defineResource request group s))
  rw [if_pos rfl, hr, Option.map_some] at hplaced
  have hfinish := finish_eq_ok hr (hempty rfl) (hsame.nodes.symm ▸ hnodes)
  refine ⟨_, _, (defined request request.volumes (defineResource request group s)).nextMinor, ?_,
    hplaced, hdefinition, hvolumes, ?_, ?_⟩
  · rw [ensureResource_eq, hgroup]
    simp only [hnone]
    exact hfinish
  · rw [onNodes, hsame.nodes]
  · exact defined_induction (motive := fun t => t.failingPolls = s.failingPolls) (fun _ _ h => h)
      request.volumes rfl

/-! ## Placed resources -/

lemma placements_withVolume_eq_nil_iff (d : VolumeDefinition) (minor : Nat) (r : ClusterResource) :
    (withVolume d minor r).placements = [] ↔ r.placements = [] := by
  rw [withVolume]
  cases r.placements <;> simp [extendPlacements]

/-- Defining volumes places nothing and removes nothing. -/
lemma placements_defined_eq_nil_iff {r₀ : ClusterResource} (missing : List Volume)
    (hr₀ : s.resources.find? request.name = some r₀)
    (hr : (defined request missing s).resources.find? request.name = some r) :
    r.placements = [] ↔ r₀.placements = [] := by
  refine defined_induction (motive := fun t => ∀ r, t.resources.find? request.name = some r →
    (r.placements = [] ↔ r₀.placements = [])) (fun v t ht r hr => ?_) missing
    (fun r hr => ?_) r hr
  · rw [find?_defineVolume, if_pos rfl] at hr
    obtain ⟨old, hold, rfl⟩ := Option.map_eq_some_iff.1 hr
    exact (placements_withVolume_eq_nil_iff _ _ old).trans (ht old hold)
  · cases hr₀.symm.trans hr
    exact Iff.rfl

/-- **Ensuring a resource that is placed** leaves it placed. -/
lemma placements_ensureResource {r₀ : ClusterResource} {mayExtend : Bool}
    (hr₀ : s.resources.find? request.name = some r₀)
    (hr : (ensureResource request mayExtend s).2.resources.find? request.name = some r)
    (hnil : r.placements = []) : r₀.placements = [] := by
  have hdefined : ∀ group missing r,
      (defined request missing (prepared request group s)).resources.find? request.name = some r →
        r.placements = [] → r₀.placements = [] := by
    intro group missing r hr hnil
    obtain ⟨r₁, hr₁⟩ := exists_find?_prepared request group s
    have hempty := (placements_defined_eq_nil_iff missing hr₁ hr).1 hnil
    rcases prepared_cases hr₁ with ⟨hnone, -⟩ | ⟨old, definition, hold, rfl⟩
    · rw [hr₀] at hnone
      cases hnone
    · cases hr₀.symm.trans hold
      exact hempty
  have houtcome := ensureResource_outcome request mayExtend s
  revert houtcome hr
  generalize ensureResource request mayExtend s = outcome
  rintro hafter (_ | ⟨-, -, hr, -⟩ | ⟨-, -, hr, -⟩ | ⟨-, -, hr, hempty, -⟩)
  · cases hr₀.symm.trans hafter
    exact hnil
  · exact hdefined _ _ r hafter hnil
  · exact hdefined _ _ r hafter hnil
  · exact hdefined _ _ _ hr hempty

/-- No placements are made of no nodes alone. -/
lemma newPlacements_eq_nil_iff {name : String} {numbers : List UInt32} {minor : Nat}
    {nodes : List String} : newPlacements name numbers minor nodes = [] ↔ nodes = [] := by
  cases nodes <;> simp [newPlacements]

end Cluster

end FailoverStorage

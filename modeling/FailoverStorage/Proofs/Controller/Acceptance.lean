import FailoverStorage.Proofs.Controller.Rivalry
import FailoverStorage.Proofs.Gateway.Rejection

/-!
# What is accepted of an existing resource

A request that may not extend is compared with the volumes that exist, once its group and the
definition of its resource were found.  The comparison walks the requested volumes, and nothing
walks the existing ones: a requested volume that exists with another size or not at all is a
conflict, before anything is changed, and a volume that exists besides the requested ones is passed
over.

`Compares` says so for both backends (`ensureResource_compares`): no other volumes are refused, and
a request that succeeds has asked for all volumes that exist only if there was no further one
(`Compares.succeeds`).  That there can be one shows at the end (`exists_ensureResource_wider`).
-/

namespace FailoverStorage

open FailoverStorage.Action

/-! ## Numbers and sizes -/

/-- The numbers of the requested volumes, with their sizes. -/
def ResourceRequest.sizes (request : ResourceRequest) : List (UInt32 × UInt64) :=
  request.volumes.map fun v => (v.number, v.sizeKib)

/-- The numbers of the volumes that exist, with their sizes. -/
def VolumeDefinition.sizes (existing : List VolumeDefinition) : List (UInt32 × UInt64) :=
  existing.map fun d => (d.number, d.sizeKib)

variable {request : ResourceRequest} {existing : List VolumeDefinition}

lemma number_of_find?_eq_some {number : UInt32} {d : VolumeDefinition}
    (h : existing.find? (·.number = number) = some d) : d ∈ existing ∧ d.number = number :=
  ⟨List.mem_of_find?_eq_some h, by simpa using List.find?_some h⟩

/-- What meets a request has all its volumes. -/
lemma ResourceRequest.MetBy.sizes_subset (h : request.MetBy existing) :
    request.sizes ⊆ VolumeDefinition.sizes existing := by
  intro x hx
  obtain ⟨v, hv, rfl⟩ := List.mem_map.1 hx
  obtain ⟨d, hd, hsize⟩ := h v hv
  obtain ⟨hmem, hnumber⟩ := number_of_find?_eq_some hd
  exact List.mem_map.2 ⟨d, hmem, by rw [hnumber, hsize]⟩

/-- What meets a request has no volumes besides if each of its numbers is requested. -/
lemma ResourceRequest.MetBy.subset_sizes_iff (h : request.MetBy existing)
    (hnodup : (existing.map (·.number)).Nodup) :
    VolumeDefinition.sizes existing ⊆ request.sizes
      ↔ ∀ d ∈ existing, ∃ v ∈ request.volumes, v.number = d.number := by
  constructor
  · intro hsubset d hd
    obtain ⟨v, hv, heq⟩ := List.mem_map.1 (hsubset (List.mem_map.2 ⟨d, hd, rfl⟩))
    exact ⟨v, hv, congrArg Prod.fst heq⟩
  · intro hrequested x hx
    obtain ⟨d, hd, rfl⟩ := List.mem_map.1 hx
    obtain ⟨v, hv, hnumber⟩ := hrequested d hd
    obtain ⟨d', hd', hsize⟩ := h v hv
    obtain ⟨hmem, hnumber'⟩ := number_of_find?_eq_some hd'
    obtain rfl : d' = d :=
      List.inj_on_of_nodup_map hnodup hmem hd (hnumber'.trans hnumber)
    exact List.mem_map.2 ⟨v, hv, by rw [hnumber, hsize]⟩

/-! ## Comparing -/

section

variable {σ : Type}

/-- **How a request that may not extend fares** against the volumes that exist; `t` is the state in
which they are compared. -/
structure Compares (request : ResourceRequest) (existing : List VolumeDefinition)
    (ensure : Action σ Deployment) (s t : σ) : Prop where
  /-- A requested volume that does not exist as requested is a conflict, and nothing is changed. -/
  conflict : ¬ request.MetBy existing → ∃ reason, ensure s = (.error (.conflict reason), t)
  /-- Nothing else is. -/
  accepts : request.MetBy existing → ∀ err u, ensure s = (.error err, u) → err.kind ≠ .conflict
  /-- What exists has all volumes of a request that succeeds, and no others if each of its numbers
  is requested. -/
  succeeds : ∀ deployment u, ensure s = (.ok deployment, u) →
    request.sizes ⊆ VolumeDefinition.sizes existing
      ∧ ((existing.map (·.number)).Nodup → (VolumeDefinition.sizes existing ⊆ request.sizes
        ↔ ∀ d ∈ existing, ∃ v ∈ request.volumes, v.number = d.number))

/-- What follows the comparison decides nothing about it. -/
lemma Compares.of_accepting {ensure : Action σ Deployment} {s t : σ}
    (accepted : Action σ Deployment)
    (hconflict : ∀ reason, request.missingVolumes existing false = .error (.conflict reason) →
      ensure s = (.error (.conflict reason), t))
    (haccepted : request.missingVolumes existing false = .ok [] → ensure s = accepted t)
    (haccepting : Accepting accepted) : Compares request existing ensure s t := by
  rcases request.missingVolumes_false existing with ⟨hmet, hmissing⟩ | ⟨hnot, reason, hreason⟩
  · refine ⟨fun hnot => absurd hmet hnot, fun _ err u hrun hkind => ?_,
      fun _ _ _ => ⟨hmet.sizes_subset, hmet.subset_sizes_iff⟩⟩
    rw [haccepted hmissing] at hrun
    exact haccepting t err u hrun (.inr hkind)
  · refine ⟨fun _ => ⟨reason, hconflict reason hreason⟩, fun hmet => absurd hmet hnot,
      fun deployment u hok => ?_⟩
    cases (hconflict reason hreason).symm.trans hok

end

/-! ## The cluster -/

/-- **A cluster compares with the volumes of the resource.** -/
lemma Cluster.compares_ensureResource {c : Cluster} {group : ResourceGroup} {r : ClusterResource}
    (hgroup : c.groups.find? request.resourceGroup = some group)
    (hr : c.resources.find? request.name = some r) :
    Compares request r.volumes.values (ensureResource request false) c c := by
  refine Compares.of_accepting (do
      modify (updateProperties request r)
      finish request group []) (fun reason hmissing => ?_) (fun hmissing => ?_)
    ((accepting_modify _).bind fun _ => accepting_finish _ _ _)
  all_goals
    rw [ensureResource_eq, hgroup, hr]
    simp only [hmissing]
  rfl

/-! ## The controller -/

namespace Controller

variable {σ α : Type} {c : Controller σ}

/-- No answer to a request turns anything down. -/
lemma accepting_call (c : Controller σ) (method path : String) (body : Option Json) :
    Accepting (c.call method path body) := by
  intro s err t hrun
  have hkind : ∀ reply err, outcome method path reply = .error err →
      err.kind = .backend ∨ err.kind = .notFound := by
    intro reply err herr
    rw [outcome.eq_def] at herr
    split at herr
    · cases herr
      exact .inl rfl
    · split at herr
      · cases herr
        exact .inr rfl
      split at herr
      · cases herr
      · cases herr
        exact .inl rfl
  rw [call_apply] at hrun
  rcases hkind _ err (Prod.mk.inj hrun).1 with h | h
  · exact Error.not_isRejection h ErrorKind.noConfusion ErrorKind.noConfusion
  · exact Error.not_isRejection h ErrorKind.noConfusion ErrorKind.noConfusion

lemma accepting_send (c : Controller σ) (method path : String) (body : Option Json) :
    Accepting (c.send method path body) :=
  (accepting_call c method path body).bind fun _ => accepting_pure ()

lemma accepting_read (c : Controller σ) (path : String) (decode : Json.Decoder α) :
    Accepting (c.read path decode) := by
  refine (accepting_call c _ _ _).bind fun body => ?_
  cases decodeWhole decode body with
  | some a => exact accepting_pure a
  | none =>
      exact accepting_throw
        (Error.not_isRejection rfl ErrorKind.noConfusion ErrorKind.noConfusion)

lemma accepting_read? (c : Controller σ) (path : String) (decode : Json.Decoder α) :
    Accepting (c.read? path decode) := by
  intro s err t hrun
  rw [read?, tryCatch_apply, map_apply] at hrun
  rcases hread : c.read path decode s with ⟨err' | a, u⟩
  · rw [hread] at hrun
    simp only [Except.map_error] at hrun
    split at hrun
    · cases hrun
    · cases hrun
      exact accepting_read c path decode s err t hread
  · rw [hread] at hrun
    cases hrun

lemma accepting_defineVolumes (c : Controller σ) (request : ResourceRequest)
    (volumes : List Volume) : Accepting (c.defineVolumes request volumes) := by
  induction volumes with
  | nil => exact accepting_pure ()
  | cons v rest ih => exact ((accepting_send c _ _ _).inPhase _).bind fun _ => ih

lemma accepting_placed (c : Controller σ) (name : String) : Accepting (c.placed name) := by
  refine (accepting_read c _ _).bind fun found => ?_
  split
  · exact ((accepting_send c _ _ _).inPhase _).bind fun _ => accepting_read c _ _
  · exact accepting_pure found

/-- Bringing the properties of a definition towards a request, once its volumes were compared. -/
def updating (c : Controller σ) (request : ResourceRequest) (definition : ResourceDefinition)
    (missing : List Volume) : Action σ (List Volume) := do
  let changed := request.changedProperties definition.properties
  if !changed.isEmpty then
    (c.changeProperties request.name changed []).inPhase
      ("failed to update resource definition " ++ request.name)
  return missing

/-- The last steps of ensuring a resource. -/
def finishing (c : Controller σ) (request : ResourceRequest) (group : ResourceGroup)
    (missing : List Volume) : Action σ Deployment := do
  c.defineVolumes request missing
  let placements ← c.placed request.name
  match ← c.definition? request.name with
  | some definition => return { definition, group, placements }
  | none => throw (.notFound "resource-definition" request.name)

lemma accepting_updating (c : Controller σ) (request : ResourceRequest)
    (definition : ResourceDefinition) (missing : List Volume) :
    Accepting (c.updating request definition missing) := by
  rw [updating]
  simp only
  split
  · exact ((accepting_send c _ _ _).inPhase _).bind fun _ => accepting_pure _
  · exact accepting_pure _

lemma accepting_finishing (c : Controller σ) (request : ResourceRequest) (group : ResourceGroup)
    (missing : List Volume) : Accepting (c.finishing request group missing) := by
  refine (accepting_defineVolumes c _ _).bind fun _ => (accepting_placed c _).bind fun _ => ?_
  refine (accepting_read? c _ _).bind fun definition? => ?_
  cases definition? with
  | some definition => exact accepting_pure _
  | none =>
      exact accepting_throw
        (Error.not_isRejection rfl ErrorKind.noConfusion ErrorKind.noConfusion)

/-- **A controller tells which volumes of a resource exist**: it finds the group of a request, then
the definition of the resource, and then the volumes. -/
def Finds (c : Controller σ) (request : ResourceRequest) (existing : List VolumeDefinition)
    (s t : σ) : Prop :=
  ∃ group definition s₁ s₂, c.group? request.resourceGroup s = (.ok (some group), s₁)
    ∧ c.definition? request.name s₁ = (.ok (some definition), s₂)
    ∧ c.volumes request.name s₂ = (.ok existing, t)

/-- **A client compares with the volumes that its controller tells.** -/
lemma compares_ensureResource {s t : σ} (h : c.Finds request existing s t) :
    Compares request existing (c.ensureResource request false) s t := by
  obtain ⟨group, definition, s₁, s₂, hgroup, hdefinition, hvolumes⟩ := h
  have hprepare : c.prepare request false s₁ = (do
      let missing ← Action.ofExcept (request.missingVolumes existing false)
      c.updating request definition missing) t := by
    rw [prepare, bind_apply_ok hdefinition]
    simp only
    rw [bind_apply_ok hvolumes]
    rfl
  have hensure : c.ensureResource request false s = (do
      let missing ← c.prepare request false
      c.finishing request group missing) s₁ := by
    rw [ensureResource, bind_apply_ok hgroup]
    rfl
  refine Compares.of_accepting (do
      let missing ← c.updating request definition []
      c.finishing request group missing) (fun reason hmissing => ?_) (fun hmissing => ?_)
    ((accepting_updating c _ _ _).bind fun _ => accepting_finishing c _ _ _)
  · rw [hmissing] at hprepare
    rw [hensure]
    exact bind_apply_error hprepare _
  · rw [hmissing] at hprepare
    have hupdating : c.prepare request false s₁ = c.updating request definition [] t := hprepare
    rw [hensure, bind_apply, hupdating, ← bind_apply]

end Controller

/-! ## Both backends -/

/-- **An existing resource is accepted exactly if it has each requested volume.**  On every cluster
and against every controller, a request that may not extend conflicts with the volumes of a resource
that exists if one that it asks for is not there or has another size; otherwise it does not
conflict, and a cluster that has the resource placed returns it.  So where it succeeds, the volumes
that exist are those that are requested unless there is one of a further number. -/
theorem ensureResource_compares (request : ResourceRequest) :
    (∀ (c : Cluster) group r, c.groups.find? request.resourceGroup = some group →
      c.resources.find? request.name = some r →
        Compares request r.volumes.values (Cluster.ensureResource request false) c c
          ∧ (request.MetBy r.volumes.values → r.placements ≠ [] →
            ∃ deployment t, Cluster.ensureResource request false c = (.ok deployment, t)))
      ∧ ∀ {σ : Type} (client : Controller σ) existing (s t : σ),
        client.Finds request existing s t →
          Compares request existing (client.ensureResource request false) s t := by
  refine ⟨fun c group r hgroup hr => ⟨Cluster.compares_ensureResource hgroup hr, ?_⟩,
    fun client existing s t => Controller.compares_ensureResource⟩
  intro hmet hplaced
  obtain ⟨r', t, hensure, -⟩ :=
    Cluster.exists_ensureResource_of_metBy request hgroup hr hmet hplaced
  exact ⟨_, t, hensure⟩

/-! ## A resource with a further volume -/

/-- A request for three volumes. -/
def wideRequest : ResourceRequest :=
  { name := "data"
    resourceGroup := defaultResourceGroup
    volumes := [{ number := 0, sizeKib := 65536 }, { number := 1, sizeKib := 1024 },
      { number := 2, sizeKib := 1024 }] }

/-- A request for two of them. -/
def narrowRequest : ResourceRequest := { wideRequest with volumes := wideRequest.volumes.take 2 }

/-- A cluster that has the three volumes. -/
def wideCluster : Cluster := (Cluster.ensureResource wideRequest false {}).2

def wideVolumes : List VolumeDefinition := wideRequest.volumes.map wideRequest.volumeDefinition

/-- A controller that has the three volumes on one node. -/
def wideScript : Script := fun _ call =>
  let body : String :=
    if call.url = "/v1/resource-groups/DfltRscGrp" then "\x7b\"name\":\"DfltRscGrp\"\x7d"
    else if call.url = "/v1/resource-definitions/data" then
      "\x7b\"name\":\"data\",\"resource_group_name\":\"DfltRscGrp\"\x7d"
    else if call.url = "/v1/resource-definitions/data/volume-definitions" then
      "[\x7b\"volume_number\":0,\"size_kib\":65536\x7d,"
        ++ "\x7b\"volume_number\":1,\"size_kib\":1024\x7d,"
        ++ "\x7b\"volume_number\":2,\"size_kib\":1024\x7d]"
    else "[\x7b\"name\":\"data\",\"node_name\":\"node-a\"\x7d]"
  some { status := 200, body }

lemma exists_resource_wideCluster : ∃ r, wideCluster.resources.find? narrowRequest.name = some r
    ∧ r.volumes.values = wideVolumes ∧ r.placements ≠ [] := by
  have hresource : (wideCluster.resources.find? narrowRequest.name).any
      (fun r => r.volumes.values = wideVolumes && r.placements ≠ []) = true := by decide +kernel
  obtain ⟨r, hr, hshape⟩ := (Option.any_eq_true _ _).1 hresource
  simp only [Bool.and_eq_true, decide_eq_true_eq] at hshape
  exact ⟨r, hr, hshape⟩

lemma exists_finds_wideScript : ∃ log,
    (wideScript.controller "").Finds narrowRequest wideVolumes [] log :=
  ⟨_, { name := defaultResourceGroup },
    { name := "data", resourceGroup := defaultResourceGroup }, _, _,
    Prod.ext (by decide +kernel) rfl, Prod.ext (by decide +kernel) rfl,
    Prod.ext (by decide +kernel) rfl⟩

/-- The request for two of the three volumes is compared with them, on the cluster as well as
against the controller. -/
theorem narrowRequest_compares : ∃ r log,
    wideCluster.groups.find? narrowRequest.resourceGroup
        = some { name := defaultResourceGroup, placeCount := some 2 }
      ∧ wideCluster.resources.find? narrowRequest.name = some r
      ∧ Compares narrowRequest r.volumes.values (Cluster.ensureResource narrowRequest false)
        wideCluster wideCluster
      ∧ (wideScript.controller "").Finds narrowRequest wideVolumes [] log
      ∧ Compares narrowRequest wideVolumes
        ((wideScript.controller "").ensureResource narrowRequest false) [] log := by
  have hgroup : wideCluster.groups.find? narrowRequest.resourceGroup
      = some { name := defaultResourceGroup, placeCount := some 2 } := by decide +kernel
  obtain ⟨r, hr, -, -⟩ := exists_resource_wideCluster
  obtain ⟨log, hfinds⟩ := exists_finds_wideScript
  exact ⟨r, log, hgroup, hr,
    ((ensureResource_compares narrowRequest).1 wideCluster _ r hgroup hr).1, hfinds,
    (ensureResource_compares narrowRequest).2 _ wideVolumes [] log hfinds⟩

/-- **A request that may not extend is granted although there is a further volume**, by the cluster
as well as by the controller. -/
theorem exists_ensureResource_wider : (narrowRequest.volumes.map (·.number)).Nodup
    ∧ (∃ r deployment t, wideCluster.resources.find? narrowRequest.name = some r
      ∧ Cluster.ensureResource narrowRequest false wideCluster = (.ok deployment, t)
      ∧ ¬ VolumeDefinition.sizes r.volumes.values ⊆ narrowRequest.sizes)
    ∧ ∃ log deployment t, (wideScript.controller "").Finds narrowRequest wideVolumes [] log
      ∧ (wideScript.controller "").ensureResource narrowRequest false [] = (.ok deployment, t)
      ∧ ¬ VolumeDefinition.sizes wideVolumes ⊆ narrowRequest.sizes := by
  have hwider : ¬ VolumeDefinition.sizes wideVolumes ⊆ narrowRequest.sizes := by decide
  refine ⟨by decide, ?_, ?_⟩
  · obtain ⟨r, hr, hvolumes, hplaced⟩ := exists_resource_wideCluster
    have hmissing : narrowRequest.missingVolumes wideVolumes false = .ok [] := by decide
    have hmet : narrowRequest.MetBy r.volumes.values := by
      rw [hvolumes]
      exact (ResourceRequest.missingAmong_false_eq_ok hmissing).2
    obtain ⟨r', t, hensure, -⟩ := Cluster.exists_ensureResource_of_metBy narrowRequest
      (show wideCluster.groups.find? narrowRequest.resourceGroup
        = some { name := defaultResourceGroup, placeCount := some 2 } by decide +kernel)
      hr hmet hplaced
    exact ⟨r, _, t, hr, hensure, by rwa [hvolumes]⟩
  · obtain ⟨log, hfinds⟩ := exists_finds_wideScript
    have hgranted : ((wideScript.controller "").ensureResource narrowRequest false
        []).1.toOption.isSome = true := by decide +kernel
    rcases hrun : (wideScript.controller "").ensureResource narrowRequest false []
      with ⟨err | deployment, t⟩
    · rw [hrun] at hgranted
      cases hgranted
    · exact ⟨log, deployment, t, hfinds, rfl, hwider⟩

end FailoverStorage

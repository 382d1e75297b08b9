import FailoverStorage.Proofs.Cluster.Ensuring
import FailoverStorage.Proofs.Gateway.Isolation
import FailoverStorage.Proofs.Gateway.Waiting

/-!
# Creating an endpoint

How creating an endpoint goes through, in both directions.

**Two ways** (`Operation.create_of_checks`).  After its checks a request either asks for what is
stored, or for something new.

**What a success consists of** (`Operation.exists_of_createNew_eq_ok`): if nothing was stored, the
resource was ensured, the configuration stored and then attached, a read of the placements ended the
wait, and what is returned is what is then reported.

**When it succeeds** (`Operation.exists_create_of_ensure`): if the resource can be ensured on a
cluster that holds nothing up, the endpoint is installed and its start goes through
(`Operation.Installed.exists_start`); what is returned depends only on whether its configuration can
be read back.  So it is with an endpoint of which nothing exists yet, on a cluster with enough nodes
for its group (`Operation.Accepts.exists_create`).
-/

namespace FailoverStorage

open FailoverStorage.Action

/-! ## Successful steps -/

namespace Action

variable {σ α β : Type}

/-- **A success has a success before it.** -/
lemma exists_of_bind_eq_ok {a : Action σ α} {f : α → Action σ β} {s u : σ} {y : β}
    (h : (a >>= f) s = (.ok y, u)) : ∃ x t, a s = (.ok x, t) ∧ f x t = (.ok y, u) := by
  rcases hrun : a s with ⟨err | x, t⟩
  · rw [bind_apply_error hrun] at h
    cases h
  · rw [bind_apply_ok hrun] at h
    exact ⟨x, t, rfl, h⟩

lemma ofExcept_eq_ok {result : Except Error α} {s t : σ} {x : α}
    (h : ofExcept result s = (.ok x, t)) : result = .ok x ∧ s = t :=
  Prod.mk.inj h

lemma of_inPhase_eq_ok {phase : String} {a : Action σ α} {s t : σ} {x : α}
    (h : a.inPhase phase s = (.ok x, t)) : a s = (.ok x, t) := by
  rw [Action.inPhase] at h
  rcases hrun : a s with ⟨err | y, u⟩
  · rw [hrun] at h
    cases h
  · rw [hrun] at h
    exact h

end Action

namespace Operation

variable {p : Protocol} {id : p.Identity} {requested e : Endpoint p} {s t u : Cluster} (w : Waiter)

/-- Nothing is found exactly if nothing is stored. -/
lemma found_eq_none_iff : found id s = .ok none
    ↔ s.configs.find? (PromoterConfig.pathOf (Protocol.configId id)) = none := by
  rw [found]
  cases s.configs.find? (PromoterConfig.pathOf (Protocol.configId id)) with
  | none => exact ⟨fun _ => rfl, fun _ => rfl⟩
  | some text =>
      rw [Cluster.readStored]
      cases PromoterConfig.ofToml text.content <;> simp [inPhase]

/-! ## Starting -/

/-- Starting what is stored returns what is reported after the wait. -/
lemma start_eq {stored : StoredConfig} (hfound : found id s = .ok (some stored))
    (hawait : (gateway w).await (Protocol.resourceName id) "start" Waiter.anyInUse
      (Cluster.attach stored.config s).2 = (.ok (), u)) :
    (gateway w).start id s = (reported id u, u) := by
  rw [start_apply w hfound, bind_apply_ok hawait, get_eq_reported]

/-- **A successful start** attached what is stored, waited, and returned what is reported. -/
lemma exists_of_start_eq_ok {stored : StoredConfig} (hfound : found id s = .ok (some stored))
    {result : Option (Endpoint p)} (h : (gateway w).start id s = (.ok result, t)) :
    (gateway w).await (Protocol.resourceName id) "start" Waiter.anyInUse
        (Cluster.attach stored.config s).2 = (.ok (), t)
      ∧ reported id t = .ok result := by
  rw [start_apply w hfound] at h
  obtain ⟨⟨⟩, u, hawait, hget⟩ := exists_of_bind_eq_ok h
  rw [get_eq_reported] at hget
  obtain ⟨hreported, rfl⟩ := Prod.mk.inj hget
  exact ⟨hawait, hreported⟩

/-! ## Exclusive agents -/

/-- The texts of a cluster that can be read. -/
def readableConfigs (c : Cluster) : List StoredConfig :=
  c.configs.entries.filterMap fun x => Cluster.readable x.1 x.2

lemma mem_readableConfigs {c : Cluster} {stored : StoredConfig} : stored ∈ readableConfigs c
    ↔ ∃ text, c.configs.find? stored.path = some text
      ∧ PromoterConfig.ofToml text.content = .ok stored.config
      ∧ text.attached = stored.attached := by
  rw [readableConfigs, List.mem_filterMap]
  constructor
  · rintro ⟨⟨path, text⟩, hentry, hread⟩
    rw [Cluster.readable] at hread
    split at hread
    · rename_i config hconfig
      cases hread
      exact ⟨text, SortedMap.find?_eq_some_iff.2 hentry, hconfig, rfl⟩
    · cases hread
  · rintro ⟨text, htext, hconfig, hattached⟩
    refine ⟨(stored.path, text), SortedMap.find?_eq_some_iff.1 htext, ?_⟩
    simp only [Cluster.readable, hconfig, hattached]

lemma configs_apply (c : Cluster) : (gateway w).configs c = (.ok (readableConfigs c), c) :=
  inPhase_apply_ok _ rfl

/-- **An endpoint has no rival** if no configuration of another id has the agent that is exclusive
to its protocol. -/
def Unrivalled (id : p.Identity) (c : Cluster) : Prop :=
  ∀ kind, p.exclusiveKind = some kind → ∀ stored ∈ readableConfigs c,
    stored.config.id ≠ Protocol.configId id → stored.config.hasKind kind = false

/-- **The check for exclusive agents passes** exactly without a rival. -/
lemma checkExclusive_eq_ok_iff {id : p.Identity} {c : Cluster} :
    (gateway w).checkExclusive id c = (.ok (), c) ↔ Unrivalled id c := by
  rw [Gateway.checkExclusive, Unrivalled]
  cases p.exclusiveKind with
  | none => exact ⟨fun _ _ h => (by cases h), fun _ => rfl⟩
  | some kind =>
      simp only [Option.some.injEq, forall_eq']
      rw [bind_apply_ok (configs_apply w c)]
      cases hothers : (readableConfigs c).filter fun c =>
          c.config.id ≠ Protocol.configId id && c.config.hasKind kind with
      | nil =>
          rw [List.filter_eq_nil_iff] at hothers
          refine ⟨fun _ stored hstored hid => ?_, fun _ => rfl⟩
          simpa [hid] using hothers stored hstored
      | cons other rest =>
          refine ⟨fun h => (by cases h), fun h => ?_⟩
          have hother : other ∈ other :: rest := List.mem_cons_self
          rw [← hothers, List.mem_filter, Bool.and_eq_true, decide_eq_true_eq] at hother
          obtain ⟨hmem, hid, hkind⟩ := hother
          rw [h other hmem hid] at hkind
          cases hkind

/-! ## Two ways to create -/

/-- A request that asks for what is stored: it is returned if it agrees with the request. -/
def createExisting (requested : Endpoint p) (stored : StoredConfig) :
    Action Cluster (Endpoint p) := do
  let (existing, _) ← (gateway w).load p stored requested.resourceName
  if existing.agreesWith requested then return existing
  else throw (.conflict ("resource " ++ Protocol.identityText requested.identity
    ++ " already exists with incompatible config"))

lemma readOnly_createExisting (requested : Endpoint p) (stored : StoredConfig) :
    ReadOnly (createExisting w requested stored) :=
  readOnly_existing w stored requested _

/-- A request that asks for something new: it is deployed, stored and started. -/
def createNew (requested : Endpoint p) : Action Cluster (Endpoint p) := do
  let deployment ← (Cluster.ensureResource (Gateway.resourceRequest requested) false).inPhase
    ("failed to create resource " ++ requested.resourceName)
  (gateway w).store requested deployment.placements "create"
  match ← (gateway w).start requested.identity with
  | some e => return e
  | none =>
    throw (.internal ("promoter config " ++ requested.configId ++ " vanished after creation"))

/-- **Creating after the checks** goes one of the two ways. -/
lemma create_of_checks (hvalid : requested.fillDefaults.validate = .ok ())
    (hexclusive : (gateway w).checkExclusive requested.identity s = (.ok (), s))
    {stored? : Option StoredConfig} (hfound : found requested.identity s = .ok stored?) :
    (gateway w).create requested s = (match stored? with
      | some stored => createExisting w requested.fillDefaults stored
      | none => createNew w requested.fillDefaults) s := by
  have hcheck : Action.ofExcept requested.fillDefaults.validate s = (.ok (), s) := by
    rw [hvalid]
    rfl
  have hexclusive' : (gateway w).checkExclusive requested.fillDefaults.identity s = (.ok (), s) :=
    hexclusive
  have hfind : (gateway w).find requested.fillDefaults.identity s = (.ok stored?, s) :=
    find_eq_ok w hfound
  rw [Gateway.create, bind_apply_ok hcheck, bind_apply_ok hexclusive', bind_apply_ok hfind]
  cases stored? <;> rfl

/-- A successful creation has passed the checks. -/
lemma checked_of_create_eq_ok (h : (gateway w).create requested s = (.ok e, u)) :
    requested.fillDefaults.validate = .ok ()
      ∧ (gateway w).checkExclusive requested.identity s = (.ok (), s)
      ∧ ∃ stored?, found requested.identity s = .ok stored? := by
  obtain ⟨⟨⟩, _, hcheck, h⟩ := exists_of_bind_eq_ok h
  obtain ⟨hvalid, rfl⟩ := ofExcept_eq_ok hcheck
  obtain ⟨⟨⟩, _, hexclusive, h⟩ := exists_of_bind_eq_ok h
  obtain rfl : s = _ := by
    rw [← readOnly_checkExclusive w requested.fillDefaults.identity s, hexclusive]
  obtain ⟨stored?, _, hfind, -⟩ := exists_of_bind_eq_ok h
  rw [find_apply] at hfind
  exact ⟨hvalid, hexclusive, stored?, (Prod.mk.inj hfind).1⟩

/-! ## Creating what is not stored -/

/-- What creating returns, given what starting returns. -/
def created (requested : Endpoint p) :
    Except Error (Option (Endpoint p)) → Except Error (Endpoint p)
  | .ok (some e) => .ok e
  | .ok none =>
    .error (.internal ("promoter config " ++ requested.configId ++ " vanished after creation"))
  | .error err => .error err

/-- Creating something new comes to starting what was deployed and stored for it. -/
lemma createNew_eq_start {deployment : Deployment} {config : PromoterConfig}
    (hensure : Cluster.ensureResource (Gateway.resourceRequest requested) false s
      = (.ok deployment, t))
    (hconfig : requested.toPromoter deployment.placements = .ok config) :
    createNew w requested s
      = (created requested
          ((gateway w).start requested.identity (Cluster.ensureConfig config t).2).1,
        ((gateway w).start requested.identity (Cluster.ensureConfig config t).2).2) := by
  have hdeploy := inPhase_apply_ok ("failed to create resource " ++ requested.resourceName) hensure
  have hstore : (gateway w).store requested deployment.placements "create" t
      = (.ok (), (Cluster.ensureConfig config t).2) := by
    rw [Gateway.store, hconfig]
    rfl
  rw [createNew, bind_apply_ok hdeploy, bind_apply_ok hstore]
  rcases hstart : (gateway w).start requested.identity
    (Cluster.ensureConfig config t).2 with ⟨err | started, u⟩
  · exact bind_apply_error hstart _
  · rw [bind_apply_ok hstart]
    cases started <;> rfl

/-- **What the success of creating something new consists of.** -/
lemma exists_of_createNew_eq_ok (hsettled : requested.Settled)
    (h : createNew w requested s = (.ok e, u)) :
    ∃ deployment t config,
      Cluster.ensureResource (Gateway.resourceRequest requested) false s = (.ok deployment, t)
      ∧ requested.toPromoter deployment.placements = .ok config
      ∧ (gateway w).start requested.identity (Cluster.ensureConfig config t).2
        = (.ok (some e), u) := by
  have hrun := h
  obtain ⟨deployment, t, hdeploy, -⟩ := exists_of_bind_eq_ok hrun
  have hensure := of_inPhase_eq_ok hdeploy
  obtain ⟨config, hconfig⟩ := hsettled.exists_toPromoter deployment.placements
  refine ⟨deployment, t, config, hensure, hconfig, ?_⟩
  rw [createNew_eq_start w hensure hconfig] at h
  rcases hstart : (gateway w).start requested.identity
    (Cluster.ensureConfig config t).2 with ⟨err | _ | started, v⟩
  all_goals
    rw [hstart] at h
    cases h
  rfl

/-! ## Creation that goes through -/

/-- **Starting an installed endpoint** that is in use nowhere ends with it in use on a node with a
disk, and returns what is then reported, if the patience lasts for the transition. -/
lemma Installed.exists_start {config : PromoterConfig} {attached : Bool} {r : ClusterResource}
    (h : Installed id config attached r s) (hstalled : s.stalled = false)
    (hpolls : s.failingPolls = 0) (hw : w.Endures s.transitionPolls)
    (hfree : r.placements.any (·.isInUse) = false)
    (hdisk : r.placements.any (!·.diskless) = true) :
    ∃ u, (gateway w).start id s = (reported id u, u)
      ∧ Installed id config true (Cluster.switched true r) u
      ∧ Cluster.SameOutside (some (PromoterConfig.pathOf (Protocol.configId id)))
        (Protocol.resourceName id) s u
      ∧ u.failingPolls = 0 := by
  have hattached := h.attach.resource
  obtain ⟨u, hawait, hbecame⟩ := exists_await_of_transition hw
    (show (Cluster.attach config s).2.stalled = false from hstalled) hpolls hattached rfl
    (show Waiter.anyInUse r.placements = false from hfree)
    (Cluster.any_isInUse_settle_true hdisk) "start"
  have hsame := Cluster.sameOutside_attach (congrArg PromoterConfig.pathOf h.belongs.hasId)
    h.belongs.manages s
  refine ⟨u, start_eq w h.found_eq hawait, ⟨⟨h.belongs, ?_⟩, h.lists, hbecame.resource⟩, ?_,
    hbecame.failingPolls.trans hpolls⟩
  · rw [hbecame.outside.find?_configs, h.belongs.find?_attach s]
  · exact hsame.trans (hbecame.outside.of_none _)

/-- **Creating an endpoint whose resource can be ensured**, on a cluster that holds nothing up. -/
theorem exists_create_of_ensure {deployment : Deployment} {r : ClusterResource}
    (hvalid : requested.fillDefaults.validate = .ok ())
    (hexclusive : (gateway w).checkExclusive requested.identity s = (.ok (), s))
    (hnone : s.configs.find? (PromoterConfig.pathOf requested.configId) = none)
    (hensure : Cluster.ensureResource (Gateway.resourceRequest requested.fillDefaults) false s
      = (.ok deployment, t))
    (hr : t.resources.find? requested.resourceName = some r)
    (hplacements : deployment.placements = r.placements) (hstalled : t.stalled = false)
    (hpolls : t.failingPolls = 0) (hw : w.Endures t.transitionPolls)
    (hfree : r.placements.any (·.isInUse) = false)
    (hdisk : r.placements.any (!·.diskless) = true) : ∃ config u,
      (gateway w).create requested s = (created requested (reported requested.identity u), u)
      ∧ Installed requested.identity config true (Cluster.switched true r) u
      ∧ requested.fillDefaults.toPromoter (Cluster.switched true r).placements = .ok config
      ∧ Cluster.SameOutside (some (PromoterConfig.pathOf requested.configId))
        requested.resourceName t u
      ∧ u.failingPolls = 0 := by
  have hfound : found requested.identity s = .ok none := found_eq_none_iff.2 hnone
  obtain ⟨config, hconfig⟩ :=
    (Endpoint.settled_fillDefaults hvalid).exists_toPromoter deployment.placements
  have hinstalled := installed_ensureConfig hconfig hr
  obtain ⟨u, hstart, hinstalled', hsame, hpolls'⟩ :=
    hinstalled.exists_start w hstalled hpolls hw hfree hdisk
  refine ⟨config, u, ?_, hinstalled', ?_, ?_, hpolls'⟩
  · rw [create_of_checks w hvalid hexclusive hfound]
    simp only
    rw [createNew_eq_start w hensure hconfig]
    exact congrArg (fun x => (created requested x.1, x.2)) hstart
  · rw [← hconfig, hplacements]
    exact Endpoint.toPromoter_congr rfl rfl rfl rfl (ClusterResource.deviceLayout_settle _ _)
  · have hstored := Cluster.sameOutside_ensureConfig
      (congrArg PromoterConfig.pathOf hinstalled.belongs.hasId) requested.resourceName t
    exact hstored.trans hsame

/-! ## Undisturbed creation -/

/-- **A cluster takes on an endpoint**: the request is in order and has no rival; nothing of the
endpoint exists yet; there are nodes for its group; and nothing is held up for longer than the
patience lasts. -/
structure Accepts (w : Waiter) (requested : Endpoint p) (group : ResourceGroup) (c : Cluster) :
    Prop where
  valid : requested.fillDefaults.validate = .ok ()
  exclusive : Unrivalled requested.identity c
  known : c.groups.find? requested.fillDefaults.resourceGroup = some group
  replicas : 1 ≤ group.replicas
  nodes : group.replicas ≤ c.nodes.length
  noResource : c.resources.find? requested.resourceName = none
  noText : c.configs.find? (PromoterConfig.pathOf requested.configId) = none
  stalled : c.stalled = false
  failingPolls : c.failingPolls = 0
  patience : w.Endures c.transitionPolls

section

variable {w} {group : ResourceGroup}

/-- The nodes for a group are some. -/
lemma Accepts.take_nodes_ne_nil (h : Accepts w requested group s) :
    s.nodes.take group.replicas ≠ [] := by
  have hreplicas := h.replicas
  have hlength := h.nodes
  rw [← List.length_pos_iff, List.length_take]
  omega

/-- **Creating an endpoint that the cluster takes on** deploys a new resource and promotes it, and
returns what is then reported. -/
theorem Accepts.exists_create (h : Accepts w requested group s) :
    ∃ deployment t r minor config u,
      Cluster.ensureResource (Gateway.resourceRequest requested.fillDefaults) false s
          = (.ok deployment, t)
        ∧ t.resources.find? requested.resourceName = some r
        ∧ r.definition
          = (Gateway.resourceRequest requested.fillDefaults).definitionFrom group none
        ∧ r.volumes = (Gateway.resourceRequest requested.fillDefaults).withVolumes
          requested.fillDefaults.storageVolumes .empty
        ∧ r.placements = Cluster.newPlacements requested.resourceName r.volumes.keys minor
          (s.nodes.take group.replicas)
        ∧ (gateway w).create requested s = (created requested (reported requested.identity u), u)
        ∧ Installed requested.identity config true (Cluster.switched true r) u
        ∧ requested.fillDefaults.toPromoter (Cluster.switched true r).placements = .ok config
        ∧ (Cluster.switched true r).placements.any (·.isInUse) = true
        ∧ Cluster.SameOutside (some (PromoterConfig.pathOf requested.configId))
          requested.resourceName s u
        ∧ u.failingPolls = 0 := by
  obtain ⟨t, r, minor, hensure, hr, hdefinition, hvolumes, hplacements, hpolls⟩ :=
    Cluster.ensureResource_new (Gateway.resourceRequest requested.fillDefaults) h.known
      h.noResource h.nodes false
  have hsame := Cluster.sameOutside_ensureResource none
    (Gateway.resourceRequest requested.fillDefaults) false s
  rw [hensure] at hsame
  have hfree : r.placements.any (·.isInUse) = false := by
    rw [hplacements]
    exact Cluster.any_isInUse_newPlacements
  have hdisk : r.placements.any (!·.diskless) = true := by
    rw [hplacements]
    exact Cluster.any_disk_newPlacements h.take_nodes_ne_nil
  obtain ⟨config, u, hcreate, hinstalled, hconfig, hsame', hpolls'⟩ :=
    exists_create_of_ensure w h.valid ((checkExclusive_eq_ok_iff w).2 h.exclusive) h.noText hensure
      hr rfl (hsame.stalled.trans h.stalled) (hpolls.trans h.failingPolls)
      (hsame.transitionPolls ▸ h.patience) hfree hdisk
  exact ⟨_, t, r, minor, config, u, hensure, hr, hdefinition, hvolumes, hplacements, hcreate,
    hinstalled, hconfig, Cluster.any_isInUse_settle_true hdisk, (hsame.of_none _).trans hsame',
    hpolls'⟩

end

/-! ## Creation on a fresh cluster -/

/-- The group that a fresh cluster has. -/
def usualGroup : ResourceGroup := { name := defaultResourceGroup, placeCount := some 2 }

/-- A fresh cluster takes on every endpoint that passes its check and leaves the group open. -/
lemma accepts_fresh {w : Waiter} {polls : Nat} (requested : Endpoint p)
    (hvalid : requested.fillDefaults.validate = .ok ()) (hgroup : requested.resourceGroup = "")
    (hpatience : w.Endures polls) :
    Accepts w requested usualGroup { transitionPolls := polls } where
  valid := hvalid
  exclusive := fun _ _ _ hstored => nomatch hstored
  known := by
    have hfilled : requested.fillDefaults.resourceGroup = defaultResourceGroup := by
      rw [Endpoint.fillDefaults, hgroup]
      rfl
    have husual : ({} : Cluster).groups.find? defaultResourceGroup = some usualGroup := by decide
    rw [hfilled]
    exact husual
  replicas := by decide
  nodes := by
    show usualGroup.replicas ≤ ({} : Cluster).nodes.length
    decide
  noResource := rfl
  noText := rfl
  stalled := rfl
  failingPolls := rfl
  patience := hpatience

/-- A fresh cluster on which one endpoint was created. -/
def createdCluster (requested : Endpoint p) : Cluster := (create requested).after halfSecond {}

lemma reachable_createdCluster {allowed : Protocol → Prop} (h : allowed p)
    (requested : Endpoint p) : Cluster.Reachable allowed (createdCluster requested) :=
  .operate (.fresh _ _ _ fun _ _ hgroup => name_of_find?_groups_empty hgroup) h _ _

/-- **Creating an endpoint on a fresh cluster** leaves it standing and in use, with a new resource,
and returns what is then reported. -/
theorem exists_stands_createdCluster (requested : Endpoint p)
    (hvalid : requested.fillDefaults.validate = .ok ()) (hgroup : requested.resourceGroup = "") :
    ∃ config r, (gateway halfSecond).create requested {}
        = (created requested (reported requested.identity (createdCluster requested)),
          createdCluster requested)
      ∧ Stands requested.identity config true r (createdCluster requested)
      ∧ requested.fillDefaults.toPromoter r.placements = .ok config
      ∧ r.placements.any (·.isInUse) = true
      ∧ r.definition
        = (Gateway.resourceRequest requested.fillDefaults).definitionFrom usualGroup none
      ∧ r.volumes = (Gateway.resourceRequest requested.fillDefaults).withVolumes
        requested.fillDefaults.storageVolumes .empty := by
  obtain ⟨-, -, r, -, config, u, -, -, hdefinition, hvolumes, -, hcreate, hinstalled, hconfig, huse,
    hsame, hpolls⟩ := (accepts_fresh requested hvalid hgroup ⟨rfl, by decide⟩ :
      Accepts halfSecond requested usualGroup {}).exists_create
  rw [createdCluster, after, hcreate]
  exact ⟨config, _, rfl, ⟨hinstalled, hsame.stalled, hpolls, hsame.transitionPolls⟩, hconfig, huse,
    hdefinition, hvolumes⟩

/-- **Creating a subsystem on a fresh cluster** succeeds with what is then reported. -/
lemma exists_create_subsystem (requested : Endpoint .nvmeof)
    (hvalid : requested.fillDefaults.validate = .ok ()) (hgroup : requested.resourceGroup = "") :
    ∃ e, (gateway halfSecond).create requested {} = (.ok e, createdCluster requested)
      ∧ reported requested.identity (createdCluster requested) = .ok (some e)
      ∧ e.identity = requested.identity := by
  obtain ⟨config, r, hcreate, hstands, hconfig, -⟩ :=
    exists_stands_createdCluster requested hvalid hgroup
  have hreported := reported_eq_recovered (Endpoint.settled_fillDefaults hvalid)
    (fun _ h => nomatch h) hstands.found_eq hconfig hstands.resource (fun _ _ h => nomatch h)
  rw [hreported] at hcreate ⊢
  exact ⟨_, hcreate, rfl, rfl⟩

/-- The subsystem of one volume is in use where it was created. -/
lemma exists_inUse_createdCluster : ∃ r,
    (createdCluster plainSubsystem).resources.find? (Protocol.resourceName dataNqn) = some r
      ∧ r.placements.any (·.isInUse) = true := by
  obtain ⟨config, r, -, hstands, -, huse, -⟩ :=
    exists_stands_createdCluster plainSubsystem (by decide) rfl
  exact ⟨r, hstands.resource, huse⟩

end Operation

end FailoverStorage

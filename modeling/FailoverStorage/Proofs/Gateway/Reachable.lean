import FailoverStorage.Proofs.Cluster.Primitives
import FailoverStorage.Proofs.Data.Except
import FailoverStorage.Proofs.Gateway.Keeping

/-!
# Runs on a simulated cluster

What can happen to a cluster: gateways carry out operations, each with a patience of its own, and
between them transitions are held up, reads of placements are made to fail, and disks change state.
`Cluster.Reachable` holds of every state that a fresh cluster comes to in this way.

The rest of the module says which parts of an operation only read, and what is left of the others.
-/

namespace FailoverStorage

open FailoverStorage.Action

variable {p : Protocol}

/-! ## Operations -/

/-- **What a gateway can be asked to do.** -/
inductive Operation (p : Protocol) where
  | get (id : p.Identity)
  | list
  | create (requested : Endpoint p)
  | start (id : p.Identity)
  | stop (id : p.Identity)
  | delete (id : p.Identity)
  | addVolume (id : p.Identity) (v : Volume)
  | deleteVolume (id : p.Identity) (number : UInt32)

namespace Operation

/-- The endpoint that an operation is about; listing is about none. -/
def identity? : Operation p → Option p.Identity
  | get id | start id | stop id | delete id | addVolume id _ | deleteVolume id _ => some id
  | create requested => some requested.identity
  | list => none

/-- The gateway on a cluster. -/
def gateway (w : Waiter) : Gateway Cluster := { backend := Cluster.backend, waiter := w }

/-- **The cluster after an operation**, whether it succeeds or fails. -/
def after (w : Waiter) : Operation p → Cluster → Cluster
  | get id, c => ((gateway w).get id c).2
  | list, c => ((gateway w).list p c).2
  | create requested, c => ((gateway w).create requested c).2
  | start id, c => ((gateway w).start id c).2
  | stop id, c => ((gateway w).stop id c).2
  | delete id, c => ((gateway w).delete id c).2
  | addVolume id v, c => ((gateway w).addVolume id v c).2
  | deleteVolume id number, c => ((gateway w).deleteVolume id number c).2

end Operation

/-! ## Runs -/

namespace Cluster

/-- **The states of a cluster** on which only gateways of allowed protocols act. -/
inductive Reachable (allowed : Protocol → Prop) : Cluster → Prop where
  /-- A fresh cluster has any nodes and any groups, each group under its name. -/
  | fresh (nodes : List String) (groups : SortedMap String ResourceGroup) (transitionPolls : Nat)
      (hgroups : ∀ name group, groups.find? name = some group → group.name = name) :
      Reachable allowed { nodes, groups, transitionPolls }
  | operate {c : Cluster} {p : Protocol} (hc : Reachable allowed c) (hp : allowed p)
      (op : Operation p) (w : Waiter) : Reachable allowed (op.after w c)
  /-- Transitions stand still, or go on. -/
  | stall {c : Cluster} (hc : Reachable allowed c) (stalled : Bool) :
      Reachable allowed { c with stalled }
  /-- Reads of placements will fail. -/
  | failPolls {c : Cluster} (hc : Reachable allowed c) (failingPolls : Nat) :
      Reachable allowed { c with failingPolls }
  | setDiskState {c : Cluster} (hc : Reachable allowed c) (name node : String) (number : UInt32)
      (state : DiskState) : Reachable allowed (setDiskState name node number state c).2

end Cluster

/-! ## What only reads -/

namespace Operation

variable (w : Waiter)

/-- What is found of the configuration of an endpoint. -/
def found (id : p.Identity) (c : Cluster) : Except Error (Option StoredConfig) :=
  inPhase ("failed to fetch existing promoter config " ++ Protocol.configId id)
    (Cluster.readStored (Protocol.configId id)
      (c.configs.find? (PromoterConfig.pathOf (Protocol.configId id))))

lemma find_apply (id : p.Identity) (c : Cluster) :
    (gateway w).find id c = (found id c, c) := by
  show Action.inPhase _ (Cluster.findConfig (Protocol.configId id)) c = _
  rw [Action.inPhase, Cluster.findConfig_apply, found]

lemma find_eq_ok {id : p.Identity} {c : Cluster} {stored? : Option StoredConfig}
    (h : found id c = .ok stored?) : (gateway w).find id c = (.ok stored?, c) := by
  rw [find_apply, h]

lemma load_apply (stored : StoredConfig) (resource : String) (c : Cluster) :
    (gateway w).load p stored resource c
      = ((fun e => (e, Cluster.deployment resource c))
        <$> Gateway.reconstruct p stored (Cluster.deployment resource c), c) := by
  have hdeployed : Action.inPhase ("failed to fetch deployed state of " ++ resource)
      ((gateway w).backend.storage.deployed resource) c
        = (.ok (Cluster.deployment resource c), c) := by
    show Action.inPhase _ (Cluster.deployed resource) c = _
    rw [Action.inPhase, Cluster.deployed_apply]
    rfl
  rw [Gateway.load, bind_apply_ok hdeployed]
  cases Gateway.reconstruct p stored (Cluster.deployment resource c) <;> rfl

/-- What is reconstructed was read from the configuration, but for its status. -/
lemma exists_ofPromoter_of_reconstruct {stored : StoredConfig} {deployed : DeployedState}
    {e : Endpoint p} (h : Gateway.reconstruct p stored deployed = .ok e) :
    ∃ b, Endpoint.ofPromoter p stored.config deployed.definition deployed.volumeDefinitions = .ok b
      ∧ e = { b with status := e.status } := by
  obtain ⟨b, hb, heq⟩ := bind_eq_ok_iff.1 h
  cases heq
  cases hread : Endpoint.ofPromoter p stored.config deployed.definition
      deployed.volumeDefinitions with
  | error err =>
      rw [hread] at hb
      cases hb
  | ok b' =>
      rw [hread] at hb
      cases hb
      exact ⟨b, rfl, rfl⟩

/-- **What is reported of an endpoint**: nothing without a configuration. -/
def reported (id : p.Identity) (c : Cluster) : Except Error (Option (Endpoint p)) := do
  match ← found id c with
  | none => return none
  | some stored =>
    some <$> Gateway.reconstruct p stored (Cluster.deployment (Protocol.resourceName id) c)

lemma get_eq_reported (id : p.Identity) (c : Cluster) :
    (gateway w).get id c = (reported id c, c) := by
  rw [Gateway.get, reported]
  cases hfound : found id c with
  | error err => exact bind_apply_error (by rw [find_apply, hfound]) _
  | ok stored? =>
      rw [bind_apply_ok (by rw [find_apply, hfound])]
      cases stored? with
      | none => rfl
      | some stored =>
          have hload := load_apply w (p := p) stored (Protocol.resourceName id) c
          simp only [ok_bind]
          cases hread : Gateway.reconstruct p stored
              (Cluster.deployment (Protocol.resourceName id) c) with
          | error err =>
              rw [hread] at hload
              exact bind_apply_error hload _
          | ok e =>
              rw [hread] at hload
              exact bind_apply_ok hload _

/-- What is reported was read from the configuration that is found. -/
lemma reconstruct_of_reported {id : p.Identity} {c : Cluster} {stored : StoredConfig}
    (hfound : found id c = .ok (some stored)) {e : Endpoint p}
    (he : reported id c = .ok (some e)) :
    Gateway.reconstruct p stored (Cluster.deployment (Protocol.resourceName id) c) = .ok e := by
  rw [reported, hfound, ok_bind] at he
  obtain ⟨e', hread, heq⟩ := map_eq_ok_iff.1 he
  cases heq
  exact hread

lemma load_of_reported {id : p.Identity} {c : Cluster} {stored : StoredConfig}
    (hfound : found id c = .ok (some stored)) {e : Endpoint p}
    (he : reported id c = .ok (some e)) :
    (gateway w).load p stored (Protocol.resourceName id) c
      = (.ok (e, Cluster.deployment (Protocol.resourceName id) c), c) := by
  rw [load_apply, reconstruct_of_reported hfound he]
  rfl

/-- What is loaded of a configuration that was found is reported. -/
lemma reported_of_load {id : p.Identity} {c : Cluster} {stored : StoredConfig}
    {x : Endpoint p × DeployedState} (hfind : (gateway w).find id c = (.ok (some stored), c))
    (hload : (gateway w).load p stored (Protocol.resourceName id) c = (.ok x, c)) :
    reported id c = .ok (some x.1) := by
  rw [find_apply] at hfind
  rw [load_apply] at hload
  obtain ⟨e, hread, rfl⟩ := map_eq_ok_iff.1 (Prod.mk.inj hload).1
  rw [reported, (Prod.mk.inj hfind).1, ok_bind]
  simp only [hread]
  rfl

lemma readOnly_find (id : p.Identity) : ReadOnly ((gateway w).find id) := fun c => by
  rw [find_apply]

lemma readOnly_load (stored : StoredConfig) (resource : String) :
    ReadOnly ((gateway w).load p stored resource) := fun c => by
  rw [load_apply]

lemma readOnly_get (id : p.Identity) : ReadOnly ((gateway w).get id) := fun c => by
  rw [get_eq_reported]

lemma readsKeep_gateway (P : Cluster → Prop) : (gateway w).backend.ReadsKeep P where
  deployed := fun name => (Cluster.readOnly_deployed name).keeps P
  find := fun id => (Cluster.readOnly_findConfig id).keeps P
  list := Cluster.readOnly_listConfigs.keeps P

lemma readOnly_list : ReadOnly ((gateway w).list p) :=
  ReadOnly.of_keeps fun _ => Gateway.keeps_list (readsKeep_gateway w _)

/-- An operation about no endpoint changes nothing. -/
lemma after_of_identity?_eq_none {op : Operation p} (hop : op.identity? = none) (c : Cluster) :
    op.after w c = c := by
  cases op with
  | list => exact readOnly_list w c
  | _ => cases hop

lemma readOnly_checkExclusive (id : p.Identity) : ReadOnly ((gateway w).checkExclusive id) :=
  ReadOnly.of_keeps fun _ => Gateway.keeps_checkExclusive (readsKeep_gateway w _) id

/-- An endpoint that exists already is only compared with what is requested. -/
lemma readOnly_existing (stored : StoredConfig) (requested : Endpoint p) (err : Error) :
    ReadOnly (do
      let (existing, _) ← (gateway w).load p stored requested.resourceName
      if existing.agreesWith requested then return existing else throw err) := by
  refine (readOnly_load w stored _).bind fun x => ?_
  simp only
  split
  · exact readOnly_pure _
  · exact readOnly_throw _

/-! ## Waiting -/

/-- **Starting and stopping** are one argument: what is found is changed, and then waited for. -/
lemma keeps_switch {P : Cluster → Prop} {F : Option StoredConfig → Cluster → Prop} {id : p.Identity}
    {change : PromoterConfig → Action Cluster Unit} (hfind : Triple P ((gateway w).find id) F P)
    (hnone : ∀ c, F none c → P c)
    (hchange : ∀ stored, Triple (F (some stored)) (change stored.config) (fun _ => P) P)
    (hread : Keeps P (Cluster.placements (Protocol.resourceName id))) (phase goal : String)
    (done : List Placement → Bool) :
    Keeps P (do
      match ← (gateway w).find id with
      | none => return none
      | some stored =>
        (change stored.config).inPhase (phase ++ stored.config.id)
        (gateway w).await (Protocol.resourceName id) goal done
        (gateway w).get id) := by
  refine Triple.bind hfind fun stored? => ?_
  cases stored? with
  | none => exact Triple.pure hnone
  | some stored =>
      refine Triple.bind (Triple.inPhase _ (hchange stored)) fun _ => ?_
      exact Triple.bind (Gateway.keeps_await hread goal done) fun _ => (readOnly_get w id).keeps P

/-- Waiting reads nothing more once its condition holds. -/
lemma await_eq_ok {name : String} {s t : Cluster} {placements : List Placement}
    {done : List Placement → Bool} (hw : w.cancelled = false)
    (hread : Cluster.placements name s = (.ok placements, t)) (hdone : done placements = true)
    (goal : String) : (gateway w).await name goal done s = (.ok (), t) := by
  have hwait : (gateway w).waiter.cancelled = false := hw
  have hpoll : Action.inPhase ("failed to poll resource " ++ name)
      ((gateway w).backend.storage.placements name) s = (.ok placements, t) :=
    inPhase_apply_ok _ hread
  refine inPhase_apply_ok _ ?_
  rw [Waiter.waitUntil, hwait, Waiter.polls]
  simp only [Bool.false_eq_true, if_false, Waiter.poll]
  rw [bind_apply_ok hpoll, hdone]
  rfl

/-! ## Creating, starting and stopping -/

/-- Starting attaches what is stored, waits, and reads it again. -/
lemma start_apply {id : p.Identity} {s : Cluster} {stored : StoredConfig}
    (hfound : found id s = .ok (some stored)) :
    (gateway w).start id s = (do
      (gateway w).await (Protocol.resourceName id) "start" Waiter.anyInUse
      (gateway w).get id) (Cluster.attach stored.config s).2 := by
  have hattach : Action.inPhase ("failed to attach promoter config " ++ stored.config.id)
      ((gateway w).backend.configs.attach stored.config) s
        = (.ok (), (Cluster.attach stored.config s).2) := inPhase_apply_ok _ rfl
  rw [Gateway.start, bind_apply_ok (find_eq_ok w hfound)]
  exact bind_apply_ok hattach _

/-- Stopping detaches what is stored, waits, and reads it again. -/
lemma stop_apply {id : p.Identity} {s t : Cluster} {stored : StoredConfig}
    (hfound : found id s = .ok (some stored))
    (hdetach : Cluster.detach stored.config s = (.ok (), t)) :
    (gateway w).stop id s = (do
      (gateway w).await (Protocol.resourceName id) "stop" Waiter.noneInUse
      (gateway w).get id) t := by
  have hphase : Action.inPhase ("failed to detach promoter config " ++ stored.config.id)
      ((gateway w).backend.configs.detach stored.config) s = (.ok (), t) :=
    inPhase_apply_ok _ hdetach
  rw [Gateway.stop, bind_apply_ok (find_eq_ok w hfound)]
  exact bind_apply_ok hphase _

/-- Starting comes to attaching what is stored and waiting. -/
lemma after_start {id : p.Identity} {s : Cluster} {stored : StoredConfig}
    (hfound : found id s = .ok (some stored)) :
    (start id).after w s = ((gateway w).await (Protocol.resourceName id) "start" Waiter.anyInUse
      (Cluster.attach stored.config s).2).2 := by
  show ((gateway w).start id s).2 = _
  rw [start_apply w hfound]
  rcases hawait : (gateway w).await (Protocol.resourceName id) "start" Waiter.anyInUse
    (Cluster.attach stored.config s).2 with ⟨err | _, u⟩
  · rw [bind_apply_error hawait]
  · rw [bind_apply_ok hawait, readOnly_get w id u]

/-- Stopping comes to detaching what is stored and waiting. -/
lemma after_stop {id : p.Identity} {s t : Cluster} {stored : StoredConfig}
    (hfound : found id s = .ok (some stored))
    (hdetach : Cluster.detach stored.config s = (.ok (), t)) :
    (stop id).after w s
      = ((gateway w).await (Protocol.resourceName id) "stop" Waiter.noneInUse t).2 := by
  show ((gateway w).stop id s).2 = _
  rw [stop_apply w hfound hdetach]
  rcases hawait : (gateway w).await (Protocol.resourceName id) "stop" Waiter.noneInUse t
    with ⟨err | _, u⟩
  · rw [bind_apply_error hawait]
  · rw [bind_apply_ok hawait, readOnly_get w id u]

/-- Creating what has no configuration comes to deploying it, storing it and starting it. -/
lemma after_create {requested : Endpoint p} {s t : Cluster} {deployment : Deployment}
    {config : PromoterConfig} (hvalid : requested.fillDefaults.validate = .ok ())
    (hexclusive : p.exclusiveKind = none) (hfound : found requested.identity s = .ok none)
    (hensure : Cluster.ensureResource (Gateway.resourceRequest requested.fillDefaults) false s
      = (.ok deployment, t))
    (hconfig : requested.fillDefaults.toPromoter deployment.placements = .ok config) :
    (create requested).after w s
      = (start requested.identity).after w (Cluster.ensureConfig config t).2 := by
  have hok : Action.ofExcept (.ok ()) s = (.ok (), s) := rfl
  have hcheck : (gateway w).checkExclusive requested.fillDefaults.identity s = (.ok (), s) := by
    rw [Gateway.checkExclusive, hexclusive]
    rfl
  have hfind : (gateway w).find requested.fillDefaults.identity s = (.ok none, s) :=
    find_eq_ok w hfound
  have hdeploy : Action.inPhase
      ("failed to create resource " ++ requested.fillDefaults.resourceName)
      ((gateway w).backend.storage.ensure (Gateway.resourceRequest requested.fillDefaults) false) s
        = (.ok deployment, t) := inPhase_apply_ok _ hensure
  have hstore : (gateway w).store requested.fillDefaults deployment.placements "create" t
      = (.ok (), (Cluster.ensureConfig config t).2) := by
    rw [Gateway.store, hconfig]
    rfl
  show ((gateway w).create requested s).2 = ((gateway w).start requested.identity _).2
  rw [Gateway.create, hvalid, bind_apply_ok hok, bind_apply_ok hcheck, bind_apply_ok hfind]
  simp only
  rw [bind_apply_ok hdeploy, bind_apply_ok hstore]
  rcases hstart : (gateway w).start requested.fillDefaults.identity
    (Cluster.ensureConfig config t).2 with ⟨err | started, u⟩
  · rw [bind_apply_error hstart]
    exact congrArg Prod.snd hstart.symm
  · rw [bind_apply_ok hstart]
    cases started with
    | none => exact congrArg Prod.snd hstart.symm
    | some e => exact congrArg Prod.snd hstart.symm

/-! ## Deleting -/

/-- Deleting an endpoint leaves no resource if nothing of it is in use once its configuration is
gone. -/
lemma find?_after_delete (id : p.Identity) {s t : Cluster} {placements : List Placement}
    (hw : w.cancelled = false)
    (hread : Cluster.placements (Protocol.resourceName id)
      (Cluster.withoutConfig (Protocol.configId id) s) = (.ok placements, t))
    (hplacements : ∀ r, t.resources.find? (Protocol.resourceName id) = some r →
      r.placements = placements)
    (hfree : Waiter.noneInUse placements = true) :
    ((delete id).after w s).resources.find? (Protocol.resourceName id) = none := by
  have hconfig : Action.inPhase ("failed to delete promoter config " ++ Protocol.configId id)
      ((gateway w).backend.configs.delete (Protocol.configId id)) s
        = (.ok (), Cluster.withoutConfig (Protocol.configId id) s) :=
    inPhase_apply_ok _ (Cluster.deleteConfig_apply _ s)
  show ((gateway w).delete id s).2.resources.find? (Protocol.resourceName id) = none
  rw [Gateway.delete, bind_apply_ok hconfig,
    bind_apply_ok (await_eq_ok w hw hread hfree "stop"), state_inPhase, state_orAbsent]
  show (Cluster.deleteResource (Protocol.resourceName id) t).2.resources.find? _ = none
  rcases Cluster.deleteResource_cases (Protocol.resourceName id) t with
    ⟨huse, err, hdelete⟩ | ⟨r, -, -, hdelete⟩
  · rw [hdelete]
    cases hr : t.resources.find? (Protocol.resourceName id) with
    | none => rfl
    | some r =>
        have hany := huse r hr
        rw [hplacements r hr] at hany
        rw [Waiter.noneInUse, Waiter.anyInUse, hany] at hfree
        cases hfree
  · rw [hdelete]
    simp [Cluster.countStorageWrite]

end Operation

end FailoverStorage

import FailoverStorage.Proofs.Gateway.Creation
import FailoverStorage.Proofs.Gateway.Recording

/-!
# No volume changes under a running service

Every call that a gateway makes on a cluster keeps the volumes of every resource that is in use
when the call is made (`Operation.keepsUsed_calls`).  Between any two calls transitions may be held
up or released, and reads of placements made to fail.  `Cluster.Interrupted allowed` are the states
that gateways of allowed protocols come to in this way; runs of whole operations
(`Cluster.Reachable`) are among them.

**Calls.**  Most calls cannot change a volume at all.  Three can: deleting a resource, which looks
for itself whether the resource is in use; deleting a volume; and ensuring a resource, where only a
request that may extend adds volumes to what exists.  For the last two the resource must be idle.

**Guards.**  Both are made only after an endpoint was loaded whose service is not started.  The
status was read from the placements of the same resource, since every stored text belongs to the
endpoint at whose path it is; and between reading it and the call the gateway makes no call under
which time could pass.
-/

namespace FailoverStorage

open FailoverStorage.Action

/-! ## Calls on a cluster -/

namespace Cluster

variable {s t : Cluster} {name : String}

/-- **A step keeps what is used**: no volume of a resource that is in use is added, resized or
removed, and the resource is still there. -/
def KeepsUsed (s t : Cluster) : Prop :=
  ∀ name r, s.resources.find? name = some r → r.placements.any (·.isInUse) = true →
    ∃ r', t.resources.find? name = some r' ∧ r'.volumes = r.volumes

/-- A resource is in use nowhere, or does not exist. -/
def Idle (name : String) (s : Cluster) : Prop :=
  ∀ r, s.resources.find? name = some r → r.placements.any (·.isInUse) = false

lemma KeepsUsed.refl (s : Cluster) : KeepsUsed s s := fun _ r hr _ => ⟨r, hr, rfl⟩

/-- What leaves every layout keeps what is used. -/
lemma KeepsUsed.of_layout (h : ∀ name, t.layout? name = s.layout? name) : KeepsUsed s t := by
  intro name r hr _
  obtain ⟨r', hr', hlayout⟩ := exists_of_layout?_eq (h name).symm hr
  exact ⟨r', hr', (ClusterResource.layout_eq_iff.1 hlayout).2.1.symm⟩

/-- A step on one resource keeps what is used if it keeps that resource, should it be in use. -/
lemma KeepsUsed.of_sameOutside {path : Option String} (h : SameOutside path name s t)
    (hname : ∀ r, s.resources.find? name = some r → r.placements.any (·.isInUse) = true →
      ∃ r', t.resources.find? name = some r' ∧ r'.volumes = r.volumes) : KeepsUsed s t := by
  intro other r hr huse
  by_cases hother : other = name
  · subst hother
    exact hname r hr huse
  · exact ⟨r, (h.resources other hother).trans hr, rfl⟩

/-- A step on an idle resource keeps what is used. -/
lemma KeepsUsed.of_idle {path : Option String} (h : SameOutside path name s t)
    (hidle : Idle name s) : KeepsUsed s t :=
  .of_sameOutside h fun r hr huse => by
    rw [hidle r hr] at huse
    cases huse

lemma keepsUsed_of_readOnly {α : Type} {a : Action Cluster α} (h : ReadOnly a) (s : Cluster) :
    KeepsUsed s (a s).2 := by
  rw [h s]
  exact .refl s

lemma keepsUsed_placements (name : String) (s : Cluster) : KeepsUsed s (placements name s).2 :=
  .of_layout fun other => layout?_placements name other s

lemma keepsUsed_findConfig (id : String) (s : Cluster) : KeepsUsed s (findConfig id s).2 := by
  rw [findConfig_apply]
  exact .refl s

lemma keepsUsed_ensureConfig (config : PromoterConfig) (s : Cluster) :
    KeepsUsed s (ensureConfig config s).2 :=
  .of_layout fun _ => rfl

lemma keepsUsed_attach (config : PromoterConfig) (s : Cluster) :
    KeepsUsed s (attach config s).2 :=
  .of_layout fun other => layout?_schedule config true s other

lemma keepsUsed_detach (config : PromoterConfig) (s : Cluster) :
    KeepsUsed s (detach config s).2 :=
  .of_layout fun other => layout?_detach config s other

lemma keepsUsed_deleteConfig (id : String) (s : Cluster) : KeepsUsed s (deleteConfig id s).2 :=
  .of_layout fun other => layout?_withoutConfig id s other

/-- Deleting a resource fails while it is in use. -/
lemma keepsUsed_deleteResource (name : String) (s : Cluster) :
    KeepsUsed s (deleteResource name s).2 := by
  rcases deleteResource_cases name s with ⟨-, err, h⟩ | ⟨r, hr, hfree, -⟩
  · rw [h]
    exact .refl s
  · refine .of_idle (sameOutside_deleteResource none name s) fun r' hr' => ?_
    cases hr.symm.trans hr'
    exact hfree

/-- A request that may not extend leaves the volumes of what exists. -/
lemma keepsUsed_ensureResource_false (request : ResourceRequest) (s : Cluster) :
    KeepsUsed s (ensureResource request false s).2 :=
  .of_sameOutside (sameOutside_ensureResource none request false s) fun _ hr _ => by
    obtain ⟨r', hr', hvolumes, -⟩ := ensureResource_false_find? hr
    exact ⟨r', hr', hvolumes⟩

end Cluster

/-! ## Runs with switches -/

/-- **What is switched at some moment**: whether transitions stand still, and how many reads of
placements will fail. -/
structure Switch where
  stalled : Option Bool := none
  failingPolls : Option Nat := none

/-- The cluster after a switch. -/
def Switch.set (x : Switch) (c : Cluster) : Cluster :=
  { c with
    stalled := x.stalled.getD c.stalled
    failingPolls := x.failingPolls.getD c.failingPolls }

/-- What a sequence of switches does before the call of a number. -/
abbrev Switch.each (switches : Nat → Switch) (n : Nat) : Cluster → Cluster := (switches n).set

namespace Operation

variable {p : Protocol}

/-- The gateway on a cluster that notes every call, with a switch before each. -/
def recorder (w : Waiter) (switches : Nat → Switch) : Gateway (Recorded Cluster) :=
  { backend := Cluster.backend.recording (Switch.each switches), waiter := w }

/-- **The run of an operation with a switch before each call**: where it ends, and its calls. -/
def run (w : Waiter) (switches : Nat → Switch) : Operation p → Cluster → Recorded Cluster
  | get id, c => ((recorder w switches).get id (c, [])).2
  | list, c => ((recorder w switches).list p (c, [])).2
  | create requested, c => ((recorder w switches).create requested (c, [])).2
  | start id, c => ((recorder w switches).start id (c, [])).2
  | stop id, c => ((recorder w switches).stop id (c, [])).2
  | delete id, c => ((recorder w switches).delete id (c, [])).2
  | addVolume id v, c => ((recorder w switches).addVolume id v (c, [])).2
  | deleteVolume id number, c => ((recorder w switches).deleteVolume id number (c, [])).2

/-- **Where nothing is switched, a run ends where the operation does.** -/
theorem run_eq_after (op : Operation p) (w : Waiter) (c : Cluster) :
    (op.run w (fun _ => {}) c).1 = op.after w c := by
  have hlifts : Cluster.backend.Lifts Prod.fst (recorder w fun _ => {}).backend :=
    Cluster.backend.lifts_recording
  have hstate : ∀ {α : Type} {a : Action Cluster α} {b : Action (Recorded Cluster) α},
      Lifts Prod.fst a b → (b (c, [])).2.1 = (a c).2 := fun h =>
    (congrArg Prod.snd (h (c, []))).symm
  cases op with
  | get id => exact hstate (Gateway.lifts_get hlifts w id)
  | list => exact hstate (Gateway.lifts_list hlifts w p)
  | create requested => exact hstate (Gateway.lifts_create hlifts w requested)
  | start id => exact hstate (Gateway.lifts_start hlifts w id)
  | stop id => exact hstate (Gateway.lifts_stop hlifts w id)
  | delete id => exact hstate (Gateway.lifts_delete hlifts w id)
  | addVolume id v => exact hstate (Gateway.lifts_addVolume hlifts w id v)
  | deleteVolume id number => exact hstate (Gateway.lifts_deleteVolume hlifts w id number)

end Operation

namespace Cluster

/-- **The states of a cluster** on which only gateways of allowed protocols act, and switches are
set at any time, also between the calls of one operation. -/
inductive Interrupted (allowed : Protocol → Prop) : Cluster → Prop where
  /-- A fresh cluster has any nodes and any groups, each group under its name. -/
  | fresh (nodes : List String) (groups : SortedMap String ResourceGroup) (transitionPolls : Nat)
      (hgroups : ∀ name group, groups.find? name = some group → group.name = name) :
      Interrupted allowed { nodes, groups, transitionPolls }
  | operate {c : Cluster} {p : Protocol} (hc : Interrupted allowed c) (hp : allowed p)
      (op : Operation p) (w : Waiter) (switches : Nat → Switch) :
      Interrupted allowed (op.run w switches c).1
  | switch {c : Cluster} (hc : Interrupted allowed c) (x : Switch) : Interrupted allowed (x.set c)
  | setDiskState {c : Cluster} (hc : Interrupted allowed c) (name node : String) (number : UInt32)
      (state : DiskState) : Interrupted allowed (setDiskState name node number state c).2

variable {allowed : Protocol → Prop} {c : Cluster}

/-- A run in which operations are not interfered with is a run. -/
lemma Reachable.interrupted (h : Reachable allowed c) : Interrupted allowed c := by
  induction h with
  | fresh nodes groups polls hgroups => exact .fresh nodes groups polls hgroups
  | operate _ hp op w ih =>
      rw [← op.run_eq_after w]
      exact ih.operate hp op w _
  | stall _ stalled ih => exact ih.switch { stalled := some stalled }
  | failPolls _ failingPolls ih => exact ih.switch { failingPolls := some failingPolls }
  | setDiskState _ name node number state ih => exact ih.setDiskState name node number state

end Cluster

/-! ## Calls of an operation -/

namespace Operation

variable {p : Protocol} {id : p.Identity} {start : Cluster} {switches : Nat → Switch}

/-- **An action that keeps what is used call by call**, from a state with `P`; it leaves each text
with its endpoint. -/
abbrev Careful {α : Type} (switches : Nat → Switch) (start : Cluster) (P : Cluster → Prop)
    (b : Action (Recorded Cluster) α) (Q : α → Cluster → Prop) : Prop :=
  Guarded (Switch.each switches) Cluster.KeepsUsed start P b Q Cluster.OwnTexts

/-- A careful action that needs nothing but texts in order, and yields nothing more. -/
abbrev AlwaysCareful {α : Type} (switches : Nat → Switch) (start : Cluster)
    (b : Action (Recorded Cluster) α) : Prop :=
  Careful switches start Cluster.OwnTexts b fun _ => Cluster.OwnTexts

section

variable {α : Type}

/-- What stays within an endpoint leaves each text with its endpoint. -/
lemma keeps_ownTexts (id : p.Identity) {a : Action Cluster α} (h : ∀ s, Keeps (Within id s) a) :
    Keeps Cluster.OwnTexts a :=
  Triple.of_state fun c hc => hc.of_within ((h c).state ⟨.refl _ _ _, hc p id⟩)

/-- Changes of storage leave every text. -/
lemma keeps_ownTexts_of_storage {name : String} {a : Action Cluster α}
    (h : ∀ s, Cluster.SameOutside none name s (a s).2) : Keeps Cluster.OwnTexts a :=
  Triple.of_state fun s hs => hs.of_configs (h s).find?_configs

/-- A call that keeps what is used whatever the state. -/
lemma careful_call {a : Action Cluster α} (h : Keeps Cluster.OwnTexts a)
    (hsafe : ∀ s, Cluster.KeepsUsed s (a s).2) :
    AlwaysCareful switches start (a.recorded (Switch.each switches)) :=
  Guarded.call h (fun _ _ hs => hs) fun s _ => hsafe s

lemma careful_read {a : Action Cluster α} (h : ReadOnly a) :
    AlwaysCareful switches start (a.recorded (Switch.each switches)) :=
  careful_call (h.keeps _) (Cluster.keepsUsed_of_readOnly h)

/-- A call on a resource keeps what is used where the resource is idle. -/
lemma careful_call_of_idle {name : String} {a : Action Cluster α}
    (h : ∀ s, Cluster.SameOutside none name s (a s).2) :
    Careful switches start (fun c => Cluster.Idle name c ∧ Cluster.OwnTexts c)
      (a.recorded (Switch.each switches)) fun _ => Cluster.OwnTexts :=
  Guarded.call ((keeps_ownTexts_of_storage h).imp (fun _ hs => hs.2) (fun _ _ hs => hs)
    fun _ hs => hs) (fun _ _ hs => hs) fun s hs => .of_idle (h s) hs.1

lemma careful_pure (x : α) : AlwaysCareful switches start (pure x) :=
  Guarded.pure fun _ hs => hs

lemma careful_throw {P : Cluster → Prop} {Q : α → Cluster → Prop}
    (h : ∀ s, P s → Cluster.OwnTexts s) (err : Error) :
    Careful switches start P (throw err) Q :=
  Guarded.throw h

lemma careful_ofExcept {P : Cluster → Prop} (h : ∀ s, P s → Cluster.OwnTexts s)
    (result : Except Error α) :
    Careful switches start P (Action.ofExcept result) fun x c => result = .ok x ∧ P c :=
  Guarded.ofExcept (fun _ _ hx hs => ⟨hx, hs⟩) h

end

/-! ## Reading and waiting -/

variable (w : Waiter)

/-- What is found belongs to the endpoint. -/
lemma careful_find (id : p.Identity) :
    Careful switches start Cluster.OwnTexts ((recorder w switches).find id) fun stored? c =>
      (∀ stored, stored? = some stored →
        stored.config.Belongs (Protocol.configId id) (Protocol.resourceName id))
      ∧ Cluster.OwnTexts c := by
  refine Guarded.inPhase _ (Guarded.call (fun c hc => ?_) (fun _ _ hs => hs)
    fun c _ => Cluster.keepsUsed_findConfig _ c)
  obtain ⟨hok, herror⟩ := Cluster.triple_confined_findConfig (s := c) c ⟨.refl _ _ _, hc p id⟩
  exact ⟨fun stored? t hrun => ⟨(hok stored? t hrun).1, hc.of_within (hok stored? t hrun).2⟩,
    fun err t hrun => hc.of_within (herror err t hrun)⟩

/-- **The guard**: where an endpoint is read back that is not started, its resource is idle. -/
lemma idle_of_reconstruct {stored : StoredConfig} {name : String} {e : Endpoint p} {c : Cluster}
    (h : Gateway.reconstruct p stored (Cluster.deployment name c) = .ok e)
    (hservice : e.status.service ≠ .started) : Cluster.Idle name c := by
  intro r hr
  obtain ⟨b, -, he⟩ := bind_eq_ok_iff.1 h
  cases he
  rw [Cluster.deployment, hr] at hservice
  rw [Bool.eq_false_iff]
  exact fun huse => hservice (if_pos huse)

/-- **What is loaded** has the id of its configuration, and its resource is idle unless its service
is started. -/
lemma careful_load (stored : StoredConfig) (resource : String) :
    Careful switches start Cluster.OwnTexts ((recorder w switches).load p stored resource)
      fun x c => x.1.configId = stored.config.id
        ∧ (x.1.status.service ≠ .started → Cluster.Idle resource c) ∧ Cluster.OwnTexts c := by
  have hdeployed : Triple Cluster.OwnTexts (Cluster.deployed resource)
      (fun deployed c => deployed = Cluster.deployment resource c ∧ Cluster.OwnTexts c)
      Cluster.OwnTexts := fun c hc => by
    rw [Cluster.deployed_apply]
    refine ⟨fun deployed t hrun => ?_, fun err t hrun => ?_⟩
    · cases hrun
      exact ⟨rfl, hc⟩
    · cases hrun
  refine Guarded.bind (Guarded.inPhase _ (Guarded.call hdeployed (fun _ _ hs => hs)
    fun c _ => Cluster.keepsUsed_of_readOnly (Cluster.readOnly_deployed resource) c))
    fun deployed => ?_
  refine Guarded.bind (careful_ofExcept (fun _ hs => hs.2) _) fun e => ?_
  refine Guarded.pure fun c ⟨he, hdeployed, hc⟩ => ?_
  subst hdeployed
  exact ⟨configId_reconstruct he, idle_of_reconstruct he, hc⟩

/-- What follows a load is careful if it needs nothing of what was loaded. -/
lemma Careful.bind_load {α : Type} {stored : StoredConfig} {resource : String}
    {f : Endpoint p × DeployedState → Action (Recorded Cluster) α}
    (h : ∀ x, AlwaysCareful switches start (f x)) :
    AlwaysCareful switches start ((recorder w switches).load p stored resource >>= f) :=
  Guarded.bind (careful_load w stored resource) fun x =>
    Guarded.of_imp (h x) fun _ hs => hs.2.2

lemma careful_get (id : p.Identity) :
    AlwaysCareful switches start ((recorder w switches).get id) := by
  refine Guarded.bind (careful_find w id) fun stored? => Guarded.of_forall fun _ => ?_
  cases stored? with
  | none => exact careful_pure _
  | some stored => exact Careful.bind_load w fun _ => careful_pure _

lemma careful_configs : AlwaysCareful switches start (recorder w switches).configs :=
  Guarded.inPhase _ (careful_read Cluster.readOnly_listConfigs)

lemma careful_endpointsOf (configs : List StoredConfig) :
    AlwaysCareful switches start ((recorder w switches).endpointsOf p configs) := by
  induction configs with
  | nil => exact careful_pure _
  | cons stored rest ih =>
      rw [Gateway.endpointsOf]
      cases p.resourceOfConfigId stored.config.id with
      | none => exact ih
      | some resource =>
          refine Guarded.bind (Guarded.getD (careful_read (Cluster.readOnly_deployed resource)) {})
            fun deployed => ?_
          refine Guarded.bind ih fun others => ?_
          cases Gateway.reconstruct p stored deployed with
          | ok e => exact careful_pure _
          | error err => exact careful_pure _

lemma careful_list : AlwaysCareful switches start ((recorder w switches).list p) :=
  Guarded.bind (careful_configs w) fun configs => careful_endpointsOf w configs

lemma careful_checkExclusive (id : p.Identity) :
    AlwaysCareful switches start ((recorder w switches).checkExclusive id) := by
  rw [Gateway.checkExclusive]
  cases p.exclusiveKind with
  | none => exact careful_pure _
  | some kind =>
      refine Guarded.bind (careful_configs w) fun configs => ?_
      simp only
      split
      · exact careful_pure _
      · exact careful_throw (fun _ hs => hs) _

/-- Each poll reads the placements of one resource. -/
lemma careful_poll (id : p.Identity) (phase : String) (done : List Placement → Bool) (late : Error)
    (count : Nat) :
    AlwaysCareful switches start (Waiter.poll (((recorder w switches).backend.storage.placements
      (Protocol.resourceName id)).inPhase phase) done late count) := by
  induction count with
  | zero => exact careful_throw (fun _ hs => hs) _
  | succ count ih =>
      rw [Waiter.poll]
      refine Guarded.bind (Guarded.inPhase _ (careful_call
        (keeps_ownTexts id fun _ => keeps_within_placements)
        (Cluster.keepsUsed_placements (Protocol.resourceName id)))) fun placements => ?_
      split
      · exact careful_pure _
      · exact ih

lemma careful_await (id : p.Identity) (goal : String) (done : List Placement → Bool) :
    AlwaysCareful switches start
      ((recorder w switches).await (Protocol.resourceName id) goal done) := by
  refine Guarded.inPhase _ ?_
  rw [Waiter.waitUntil]
  split
  · exact careful_throw (fun _ hs => hs) _
  · exact careful_poll w id _ done _ _

/-! ## Operations -/

/-- **Starting and stopping** are one argument. -/
lemma careful_switch (id : p.Identity) {change : PromoterConfig → Action Cluster Unit}
    (hkeeps : ∀ config : PromoterConfig,
      config.Belongs (Protocol.configId id) (Protocol.resourceName id) →
      ∀ s, Keeps (Within id s) (change config))
    (hsafe : ∀ config s, Cluster.KeepsUsed s (change config s).2) (phase goal : String)
    (done : List Placement → Bool) :
    AlwaysCareful switches start (do
      match ← (recorder w switches).find id with
      | none => return none
      | some stored =>
        ((change stored.config).recorded (Switch.each switches)).inPhase
          (phase ++ stored.config.id)
        (recorder w switches).await (Protocol.resourceName id) goal done
        (recorder w switches).get id) := by
  refine Guarded.bind (careful_find w id) fun stored? => Guarded.of_forall fun hfound => ?_
  cases stored? with
  | none => exact careful_pure _
  | some stored =>
      refine Guarded.bind (Guarded.inPhase _ (careful_call
        (keeps_ownTexts id (hkeeps _ (hfound stored rfl))) (hsafe stored.config))) fun _ => ?_
      exact Guarded.bind (careful_await w id goal done) fun _ => careful_get w id

lemma careful_start (id : p.Identity) :
    AlwaysCareful switches start ((recorder w switches).start id) :=
  careful_switch w id (fun _ h _ => Cluster.keeps_confined_attach h) Cluster.keepsUsed_attach _ _ _

lemma careful_stop (id : p.Identity) :
    AlwaysCareful switches start ((recorder w switches).stop id) :=
  careful_switch w id (fun _ h _ => Cluster.keeps_confined_detach h) Cluster.keepsUsed_detach _ _ _

lemma careful_store (e : Endpoint p) (placements : List Placement) (verb : String) :
    AlwaysCareful switches start ((recorder w switches).store e placements verb) := by
  refine Guarded.bind (careful_ofExcept (fun _ hs => hs) _) fun config =>
    Guarded.of_forall fun hconfig => ?_
  have hbelongs := PromoterConfig.belongs_of_toPromoter hconfig
  exact Guarded.inPhase _ (careful_call
    (keeps_ownTexts e.identity fun _ => Cluster.keeps_confined_ensureConfig hbelongs)
    (Cluster.keepsUsed_ensureConfig config))

lemma careful_create (requested : Endpoint p) :
    AlwaysCareful switches start ((recorder w switches).create requested) := by
  refine Guarded.bind (careful_ofExcept (fun _ hs => hs) _) fun _ => Guarded.of_forall fun _ => ?_
  refine Guarded.bind (careful_checkExclusive w _) fun _ => ?_
  refine Guarded.bind (careful_find w _) fun stored? => Guarded.of_forall fun _ => ?_
  cases stored? with
  | some stored =>
      refine Careful.bind_load w fun x => ?_
      simp only
      split
      · exact careful_pure _
      · exact careful_throw (fun _ hs => hs) _
  | none =>
      refine Guarded.bind (Guarded.inPhase _ (careful_call
        (keeps_ownTexts_of_storage (Cluster.sameOutside_ensureResource none _ false))
        (Cluster.keepsUsed_ensureResource_false _)))
        fun deployment => ?_
      refine Guarded.bind (careful_store w _ _ _) fun _ => ?_
      refine Guarded.bind (careful_start w _) fun started => ?_
      cases started with
      | some e => exact careful_pure _
      | none => exact careful_throw (fun _ hs => hs) _

lemma careful_delete (id : p.Identity) :
    AlwaysCareful switches start ((recorder w switches).delete id) := by
  refine Guarded.bind (Guarded.inPhase _ (careful_call
    (keeps_ownTexts id fun _ => Cluster.keeps_confined_deleteConfig)
    (Cluster.keepsUsed_deleteConfig _))) fun _ => ?_
  refine Guarded.bind (careful_await w id _ _) fun _ => Guarded.inPhase _ (Guarded.orAbsent ?_)
  exact careful_call (keeps_ownTexts_of_storage (Cluster.sameOutside_deleteResource none _))
    (Cluster.keepsUsed_deleteResource _)

/-- **A volume is added where the resource is idle**, which the status of the endpoint shows. -/
lemma careful_withVolume (id : p.Identity) (e : Endpoint p) (deployed : DeployedState)
    (v : Volume) :
    Careful switches start (fun c => (e.status.service ≠ .started → Cluster.Idle e.resourceName c)
        ∧ Cluster.OwnTexts c)
      ((recorder w switches).withVolume id e deployed v) fun _ => Cluster.OwnTexts := by
  rw [Gateway.withVolume]
  split
  · split
    · exact Guarded.pure fun _ hs => hs.2
    · exact careful_throw (fun _ hs => hs.2) _
  split
  · exact careful_throw (fun _ hs => hs.2) _
  rename_i hservice
  refine Guarded.bind (careful_ofExcept (fun _ hs => hs.2) _) fun _ => Guarded.of_forall fun _ => ?_
  refine Guarded.bind (Guarded.inPhase _ (Guarded.of_imp (careful_call_of_idle
    (Cluster.sameOutside_ensureResource none _ true)) fun c hc => ⟨hc.1 hservice, hc.2⟩))
    fun deployment => ?_
  exact careful_pure _

lemma careful_addVolume (id : p.Identity) (v : Volume) :
    AlwaysCareful switches start ((recorder w switches).addVolume id v) := by
  refine Guarded.bind (careful_ofExcept (fun _ hs => hs) _) fun _ => Guarded.of_forall fun _ => ?_
  refine Guarded.bind (careful_find w id) fun stored? => Guarded.of_forall fun hfound => ?_
  cases stored? with
  | none => exact careful_pure _
  | some stored =>
      refine Guarded.bind (careful_load w stored _) fun x => Guarded.of_forall fun hid => ?_
      -- what is loaded under the id of an endpoint has the resource of that endpoint
      have hname : x.1.resourceName = Protocol.resourceName id :=
        (Protocol.configId_inj (hid.trans (hfound stored rfl).hasId)).2
      rw [← hname]
      refine Guarded.bind (careful_withVolume w id x.1 x.2 v) fun y => ?_
      exact Guarded.bind (careful_store w y.1 y.2 _) fun _ => careful_get w id

lemma careful_deleteVolume (id : p.Identity) (number : UInt32) :
    AlwaysCareful switches start ((recorder w switches).deleteVolume id number) := by
  rw [Gateway.deleteVolume]
  split
  · exact careful_throw (fun _ hs => hs) _
  refine Guarded.bind (careful_find w id) fun stored? => Guarded.of_forall fun _ => ?_
  cases stored? with
  | none => exact careful_pure _
  | some stored =>
      refine Guarded.bind (careful_load w stored _) fun x => Guarded.of_forall fun _ => ?_
      simp only
      split
      · exact careful_throw (fun _ hs => hs.2) _
      rename_i hservice
      refine Guarded.bind (Guarded.inPhase _ (Guarded.orAbsent (Guarded.of_imp
        (careful_call_of_idle (Cluster.sameOutside_deleteVolume none _ number))
        fun c hc => ⟨hc.1 hservice, hc.2⟩))) fun _ => ?_
      exact Guarded.bind (careful_store w (x.1.withoutVolume number) _ _) fun _ => careful_get w id

/-! ## Runs -/

/-- **The calls of an operation are safe** where texts are in order, and leave them so. -/
lemma noted_run {c : Cluster} (hc : Cluster.OwnTexts c) (op : Operation p)
    (switches : Nat → Switch) :
    Noted (Switch.each switches) Cluster.KeepsUsed c Cluster.OwnTexts (op.run w switches c) := by
  have hstart : Noted (Switch.each switches) Cluster.KeepsUsed c Cluster.OwnTexts (c, []) :=
    ⟨hc, fun _ hcall => absurd hcall List.not_mem_nil, rfl⟩
  cases op with
  | get id => exact (careful_get w id).state hstart
  | list => exact (careful_list w).state hstart
  | create requested => exact (careful_create w requested).state hstart
  | start id => exact (careful_start w id).state hstart
  | stop id => exact (careful_stop w id).state hstart
  | delete id => exact (careful_delete w id).state hstart
  | addVolume id v => exact (careful_addVolume w id v).state hstart
  | deleteVolume id number => exact (careful_deleteVolume w id number).state hstart

end Operation

/-- Whatever is switched, and whenever, each stored text belongs to the endpoint at whose path it
is. -/
lemma Cluster.Interrupted.ownTexts {allowed : Protocol → Prop} {c : Cluster}
    (h : Cluster.Interrupted allowed c) : Cluster.OwnTexts c := by
  induction h with
  | fresh nodes groups polls hgroups =>
      intro p id text htext
      cases htext
  | operate _ _ op w switches ih => exact (op.noted_run w ih switches).state
  | switch _ x ih => exact ih
  | setDiskState _ name node number state ih =>
      exact ih.of_configs
        (Cluster.sameOutside_setDiskState none name node number state _).find?_configs

namespace Operation

variable {p : Protocol}

/-- **No volume changes under a running service.**  In every run of all protocols, with switches at
any time, the calls of an operation lead from the state before it to the state after it, and each of
them keeps what is used at that moment. -/
theorem keepsUsed_calls {c : Cluster} (hc : Cluster.Interrupted (fun _ => True) c)
    (op : Operation p) (w : Waiter) (switches : Nat → Switch) :
    Leads (Switch.each switches) 0 c (op.run w switches c).2 (op.run w switches c).1
      ∧ ∀ call ∈ (op.run w switches c).2, Cluster.KeepsUsed call.1 call.2 :=
  ⟨(op.noted_run w hc.ownTexts switches).leads, (op.noted_run w hc.ownTexts switches).safe⟩

/-- Transitions are held up all the time. -/
def heldUp (_ : Nat) : Switch := { stalled := some true }

/-- While a subsystem is in use, deleting an export of the same name does not touch its volumes,
with transitions held up, too. -/
theorem keepsUsed_calls_createdCluster :
    (∃ r, (createdCluster plainSubsystem).resources.find? (Protocol.resourceName dataNqn) = some r
      ∧ r.placements.any (·.isInUse) = true)
    ∧ Leads (Switch.each heldUp) 0 (createdCluster plainSubsystem)
        ((delete (p := .nfs) ("data" : String)).run halfSecond heldUp
          (createdCluster plainSubsystem)).2
        ((delete (p := .nfs) ("data" : String)).run halfSecond heldUp
          (createdCluster plainSubsystem)).1
    ∧ ∀ call ∈ ((delete (p := .nfs) ("data" : String)).run halfSecond heldUp
        (createdCluster plainSubsystem)).2, Cluster.KeepsUsed call.1 call.2 := by
  have hrun : Cluster.Reachable (fun _ => True) (createdCluster plainSubsystem) :=
    reachable_createdCluster trivial plainSubsystem
  exact ⟨exists_inUse_createdCluster, keepsUsed_calls hrun.interrupted _ halfSecond heldUp⟩

end Operation

end FailoverStorage

import FailoverStorage.Proofs.Endpoint.Faults
import FailoverStorage.Proofs.Gateway.Creation
import FailoverStorage.Proofs.Status

/-!
# Requests that are turned down

A request is turned down if it is malformed or conflicts with what exists.  Creating an endpoint and
adding a volume can find that out at several depths, the last of them inside the storage controller,
after part of the request was compared.  `Operation.eq_of_rejected` says that the cluster is as it
was wherever that happens: on every cluster, also with texts and definitions of other origin.

Two properties of actions carry the argument.  A **traceless** action may turn the request down, but
then it has changed nothing.  An **accepting** action may change anything, but when it fails, it
does not turn the request down.  A traceless action goes on with an accepting one; what only reads
goes on with a traceless one.  The point after which no operation turns anything down is the
first write of the storage: what follows either cannot fail, as the endpoint is settled by then, or
fails for a reason of the backend (`Endpoint.failsAs_ofPromoter`).
-/

namespace FailoverStorage

open FailoverStorage.Action

/-- The request is turned down: it is malformed, or existing state is incompatible with it. -/
def Error.IsRejection (err : Error) : Prop := err.kind = .validation ∨ err.kind = .conflict

lemma Error.not_isRejection {err : Error} {kind : ErrorKind} (h : err.kind = kind)
    (hvalidation : kind ≠ .validation) (hconflict : kind ≠ .conflict) : ¬ err.IsRejection := by
  rintro (h' | h')
  · exact hvalidation (h.symm.trans h')
  · exact hconflict (h.symm.trans h')

/-! ## Traceless and accepting actions -/

namespace Action

variable {σ α β : Type}

/-- **An action that turns the request down has changed nothing.** -/
def Traceless (a : Action σ α) : Prop :=
  ∀ s err t, a s = (.error err, t) → err.IsRejection → t = s

/-- **An action that fails does not turn the request down.** -/
def Accepting (a : Action σ α) : Prop :=
  ∀ s err t, a s = (.error err, t) → ¬ err.IsRejection

lemma ReadOnly.traceless {a : Action σ α} (h : ReadOnly a) : Traceless a := by
  intro s err t hrun _
  rw [← h s, hrun]

lemma Accepting.traceless {a : Action σ α} (h : Accepting a) : Traceless a :=
  fun s err t hrun hrejected => absurd hrejected (h s err t hrun)

lemma Traceless.inPhase {a : Action σ α} (phase : String) (h : Traceless a) :
    Traceless (a.inPhase phase) := by
  intro s err t hrun hrejected
  rw [Action.inPhase] at hrun
  rcases ha : a s with ⟨cause | x, u⟩
  · rw [ha] at hrun
    cases hrun
    exact h s cause t ha hrejected
  · rw [ha] at hrun
    cases hrun

/-- What only reads goes on with a traceless action. -/
lemma ReadOnly.bind_traceless {a : Action σ α} {f : α → Action σ β} (ha : ReadOnly a)
    (hf : ∀ x, Traceless (f x)) : Traceless (a >>= f) := by
  intro s err t hrun hrejected
  have hstate := ha s
  rcases hleft : a s with ⟨err' | x, u⟩
  all_goals
    rw [hleft] at hstate
    obtain rfl : u = s := hstate
  · rw [bind_apply_error hleft] at hrun
    cases hrun
    rfl
  · rw [bind_apply_ok hleft] at hrun
    exact hf x u err t hrun hrejected

/-- A check goes on with what is traceless once it is passed. -/
lemma traceless_ofExcept_bind {result : Except Error α} {f : α → Action σ β}
    (hf : ∀ x, result = .ok x → Traceless (f x)) : Traceless (ofExcept result >>= f) := by
  cases result with
  | error err => exact (readOnly_throw err).traceless
  | ok x => exact hf x rfl

/-- A traceless action goes on with an accepting one. -/
lemma Traceless.bind_accepting {a : Action σ α} {f : α → Action σ β} (ha : Traceless a)
    (hf : ∀ x, Accepting (f x)) : Traceless (a >>= f) := by
  intro s err t hrun hrejected
  rcases hleft : a s with ⟨err' | x, u⟩
  · rw [bind_apply_error hleft] at hrun
    cases hrun
    exact ha s err t hleft hrejected
  · rw [bind_apply_ok hleft] at hrun
    exact absurd hrejected (hf x u err t hrun)

lemma accepting_pure (x : α) : Accepting (Pure.pure x : Action σ α) := fun _ _ _ h => by cases h

lemma accepting_get : Accepting (MonadState.get : Action σ σ) := fun _ _ _ h => by cases h

lemma accepting_modify (f : σ → σ) : Accepting (modify f : Action σ PUnit) := fun _ _ _ h => by
  cases h

lemma accepting_throw {err : Error} (h : ¬ err.IsRejection) :
    Accepting (MonadExcept.throw err : Action σ α) := fun _ _ _ hrun => by
  cases hrun
  exact h

lemma accepting_ofExcept {result : Except Error α} (h : FailsAs .backend result) :
    Accepting (ofExcept result : Action σ α) := fun _ err _ hrun =>
  Error.not_isRejection (h err (Prod.mk.inj hrun).1) ErrorKind.noConfusion ErrorKind.noConfusion

lemma Accepting.bind {a : Action σ α} {f : α → Action σ β} (ha : Accepting a)
    (hf : ∀ x, Accepting (f x)) : Accepting (a >>= f) := by
  intro s err t hrun
  rcases hleft : a s with ⟨err' | x, u⟩
  · rw [bind_apply_error hleft] at hrun
    cases hrun
    exact ha s err t hleft
  · rw [bind_apply_ok hleft] at hrun
    exact hf x u err t hrun

lemma Accepting.inPhase {a : Action σ α} (phase : String) (h : Accepting a) :
    Accepting (a.inPhase phase) := by
  intro s err t hrun
  rw [Action.inPhase] at hrun
  rcases ha : a s with ⟨cause | x, u⟩
  · rw [ha] at hrun
    cases hrun
    exact h s cause t ha
  · rw [ha] at hrun
    cases hrun

end Action

/-! ## The actions of a cluster -/

namespace Cluster

lemma accepting_placements (name : String) : Accepting (placements name) := by
  rw [placements]
  refine accepting_get.bind fun c => ?_
  split
  · exact (accepting_modify _).bind fun _ =>
      accepting_throw (Error.not_isRejection rfl ErrorKind.noConfusion ErrorKind.noConfusion)
  · exact (accepting_modify _).bind fun _ => accepting_pure _

lemma accepting_place (name : String) (count : Nat) : Accepting (place name count) := by
  intro s err t hrun
  rw [place, bind_apply_ok (get_apply s)] at hrun
  split at hrun
  · cases hrun
    exact Error.not_isRejection rfl ErrorKind.noConfusion ErrorKind.noConfusion
  · cases hrun

/-- Once the volumes were compared, ensuring a resource turns nothing down. -/
lemma accepting_finish (request : ResourceRequest) (group : ResourceGroup)
    (missing : List Volume) : Accepting (finish request group missing) := by
  refine (accepting_modify _).bind fun _ => accepting_get.bind fun c => ?_
  simp only
  split
  on_goal 1 => refine (accepting_place _ _).bind fun _ => (accepting_modify _).bind fun _ => ?_
  all_goals
    refine accepting_get.bind fun c => ?_
    split
    · exact accepting_pure _
    · exact accepting_throw
        (Error.not_isRejection rfl ErrorKind.noConfusion ErrorKind.noConfusion)

/-- **Ensuring a resource compares before it writes.** -/
lemma traceless_ensureResource (request : ResourceRequest) (mayExtend : Bool) :
    Traceless (ensureResource request mayExtend) := by
  intro s err t hrun hrejected
  rw [ensureResource_eq] at hrun
  split at hrun
  · cases hrun
    rfl
  · split at hrun
    · split at hrun
      · cases hrun
        rfl
      · exact absurd hrejected (accepting_finish _ _ _ _ err t hrun)
    · exact absurd hrejected (accepting_finish _ _ _ _ err t hrun)

end Cluster

/-! ## The steps of an operation -/

namespace Operation

variable {p : Protocol} (w : Waiter)

lemma failsAs_found (id : p.Identity) (c : Cluster) : FailsAs .backend (found id c) := by
  refine FailsAs.inPhase _ ?_
  rw [Cluster.readStored.eq_def]
  split
  · exact .ok none
  · exact (PromoterConfig.failsAs_ofToml _).map _

lemma failsAs_reported (id : p.Identity) (c : Cluster) : FailsAs .backend (reported id c) := by
  refine (failsAs_found id c).bind fun stored? => ?_
  cases stored? with
  | none => exact .ok none
  | some stored =>
      exact FailsAs.map _ (((Endpoint.failsAs_ofPromoter _ _ _ _).inPhase _).bind fun _ => .ok _)

lemma accepting_find (id : p.Identity) : Accepting ((gateway w).find id) := by
  intro s err t hrun
  rw [find_apply] at hrun
  exact accepting_ofExcept (failsAs_found id s) s err t hrun

lemma accepting_get (id : p.Identity) : Accepting ((gateway w).get id) := by
  intro s err t hrun
  rw [get_eq_reported] at hrun
  exact accepting_ofExcept (failsAs_reported id s) s err t hrun

lemma accepting_await (resource goal : String) (done : List Placement → Bool) :
    Accepting ((gateway w).await resource goal done) := by
  have htimeout : ∀ reason, ¬ (Error.timeout resource reason).IsRejection := fun _ =>
    Error.not_isRejection rfl ErrorKind.noConfusion ErrorKind.noConfusion
  refine Accepting.inPhase _ ?_
  rw [Waiter.waitUntil]
  split
  · exact accepting_throw (htimeout _)
  · generalize (gateway w).waiter.polls = count
    induction count with
    | zero => exact accepting_throw (htimeout _)
    | succ count ih =>
        rw [Waiter.poll]
        refine ((Cluster.accepting_placements resource).inPhase _).bind fun placements => ?_
        split
        · exact accepting_pure ()
        · exact ih

lemma accepting_start (id : p.Identity) : Accepting ((gateway w).start id) := by
  refine (accepting_find w id).bind fun stored? => ?_
  cases stored? with
  | none => exact accepting_pure none
  | some stored =>
      refine ((accepting_modify _).inPhase _).bind fun _ => ?_
      exact (accepting_await w _ _ _).bind fun _ => accepting_get w id

lemma traceless_store (e : Endpoint p) (placements : List Placement) (verb : String) :
    Traceless ((gateway w).store e placements verb) :=
  (readOnly_ofExcept _).bind_traceless fun _ => ((accepting_modify _).inPhase _).traceless

/-- Storing a settled endpoint cannot fail. -/
lemma accepting_store {e : Endpoint p} (he : e.Settled) (placements : List Placement)
    (verb : String) : Accepting ((gateway w).store e placements verb) := by
  obtain ⟨config, hconfig⟩ := he.exists_toPromoter placements
  rw [Gateway.store, hconfig]
  exact (accepting_modify _).inPhase _

/-! ## Whole operations -/

/-- A new endpoint is turned down by its storage or not at all. -/
lemma traceless_createNew {requested : Endpoint p} (h : requested.Settled) :
    Traceless (createNew w requested) := by
  refine ((Cluster.traceless_ensureResource _ _).inPhase _).bind_accepting fun deployment => ?_
  refine (accepting_store w h _ _).bind fun _ => (accepting_start w _).bind fun started => ?_
  cases started with
  | none =>
      exact accepting_throw
        (Error.not_isRejection rfl ErrorKind.noConfusion ErrorKind.noConfusion)
  | some e => exact accepting_pure e

lemma traceless_create (requested : Endpoint p) :
    Traceless ((gateway w).create requested) := by
  rw [Gateway.create]
  refine traceless_ofExcept_bind fun _ hvalid => ?_
  refine (readOnly_checkExclusive w _).bind_traceless fun _ => ?_
  refine (readOnly_find w _).bind_traceless fun stored? => ?_
  cases stored? with
  | some stored => exact (readOnly_existing w stored _ _).traceless
  | none => exact traceless_createNew w (Endpoint.settled_fillDefaults hvalid)

/-- Adding a volume to an endpoint that was read, and storing it: a volume that is there is only
compared, and a new one is checked before the storage is asked for it. -/
lemma traceless_withVolume (id : p.Identity) (e : Endpoint p) (deployed : DeployedState)
    (v : Volume) : Traceless (do
      let (e, placements) ← (gateway w).withVolume id e deployed v
      (gateway w).store e placements "update"
      (gateway w).get id) := by
  have hstore : ∀ (e : Endpoint p) placements, Traceless (do
      (gateway w).store e placements "update"
      (gateway w).get id) := fun e placements =>
    (traceless_store w e placements "update").bind_accepting fun _ => accepting_get w id
  rw [Gateway.withVolume]
  split
  · split
    · exact hstore e deployed.placements
    · exact (readOnly_throw _).bind_traceless fun x => hstore x.1 x.2
  · split
    · exact (readOnly_throw _).bind_traceless fun x => hstore x.1 x.2
    · simp only [bind_assoc]
      refine traceless_ofExcept_bind fun _ hvalid => ?_
      refine ((Cluster.traceless_ensureResource _ _).inPhase _).bind_accepting fun deployment => ?_
      exact (accepting_store w (Endpoint.settled_fillDefaults hvalid) _ _).bind fun _ =>
        accepting_get w id

lemma traceless_addVolume (id : p.Identity) (v : Volume) :
    Traceless ((gateway w).addVolume id v) := by
  refine (readOnly_ofExcept _).bind_traceless fun _ => ?_
  refine (readOnly_find w id).bind_traceless fun stored? => ?_
  cases stored? with
  | none => exact (readOnly_pure none).traceless
  | some stored =>
      refine (readOnly_load w stored _).bind_traceless fun x => ?_
      exact traceless_withVolume w id x.1 x.2 v

/-- **A request that is turned down leaves no trace.**  On every cluster, if creating an endpoint or
adding a volume fails because the request is malformed or conflicts with what exists, then the
cluster is as it was: its definitions, volumes, properties, placements, transitions, configurations
and counters. -/
theorem eq_of_rejected {c t : Cluster} {err : Error}
    (hrejected : err.kind = .validation ∨ err.kind = .conflict) :
    (∀ requested : Endpoint p, (gateway w).create requested c = (.error err, t) → t = c)
      ∧ ∀ (id : p.Identity) (v : Volume), (gateway w).addVolume id v c = (.error err, t) → t = c :=
  ⟨fun requested h => traceless_create w requested c err t h hrejected,
    fun id v h => traceless_addVolume w id v c err t h hrejected⟩

/-! ## Two conflicts -/

/-- The kind of the error with which an action ends, if it fails. -/
def failure {α : Type} (a : Action Cluster α) (c : Cluster) : Option ErrorKind :=
  match (a c).1 with
  | .ok _ => none
  | .error err => some err.kind

lemma failure_eq_some_iff {α : Type} {a : Action Cluster α} {c : Cluster} {kind : ErrorKind} :
    failure a c = some kind ↔ ∃ err t, a c = (.error err, t) ∧ err.kind = kind := by
  rw [failure]
  rcases a c with ⟨err | x, t⟩
  · refine ⟨fun h => ⟨err, t, rfl, Option.some.inj h⟩, ?_⟩
    rintro ⟨err', t', h, hkind⟩
    cases h
    exact congrArg some hkind
  · exact ⟨fun h => (nomatch h), fun ⟨_, _, h, _⟩ => by cases h⟩

/-- No volume can be added to an endpoint that is reported as started. -/
lemma failure_addVolume_of_started {id : p.Identity} {c : Cluster} {stored : StoredConfig}
    {e : Endpoint p} {v : Volume} (hv : Volume.check [v] = .ok ())
    (hfound : found id c = .ok (some stored)) (he : reported id c = .ok (some e))
    (hnew : e.volumes.find? (·.number = v.number) = none)
    (hstarted : e.status.service = .started) :
    failure ((gateway w).addVolume id v) c = some .conflict := by
  have hcheck : Action.ofExcept (Volume.check [v]) c = (.ok (), c) := by rw [hv]; rfl
  have hwith : (gateway w).withVolume id e (Cluster.deployment (Protocol.resourceName id) c) v c
      = (.error (.conflict "cannot add volume while service is running"), c) := by
    rw [Gateway.withVolume, hnew]
    simp only [hstarted, if_true]
    rfl
  refine failure_eq_some_iff.2
    ⟨.conflict "cannot add volume while service is running", c, ?_, rfl⟩
  rw [Gateway.addVolume, bind_apply_ok hcheck, bind_apply_ok (find_eq_ok w hfound)]
  simp only
  rw [bind_apply_ok (load_of_reported w hfound he)]
  exact bind_apply_error hwith _

/-- A cluster with a resource of the name `data` whose volume is larger than that of the
subsystem. -/
def largerCluster : Cluster :=
  { resources := SortedMap.empty.insert "data"
      { definition := { name := "data", resourceGroup := defaultResourceGroup }
        volumes := .ofList [(0, { number := 0, sizeKib := 65536 }),
          (1, { number := 1, sizeKib := 2048 })] } }

/-- The created subsystem runs, so no volume can be added to it. -/
lemma failure_addVolume_createdCluster :
    failure ((gateway halfSecond).addVolume dataNqn { number := 2, sizeKib := 1024 })
      (createdCluster plainSubsystem) = some .conflict := by
  have hvalid : plainSubsystem.fillDefaults.validate = .ok () := by decide
  obtain ⟨config, r, -, hstands, hconfig, huse, -⟩ :=
    exists_stands_createdCluster plainSubsystem hvalid rfl
  have hreported := reported_eq_recovered (Endpoint.settled_fillDefaults hvalid)
    (fun _ h => nomatch h) hstands.found_eq hconfig hstands.resource (fun _ _ h => nomatch h)
  exact failure_addVolume_of_started halfSecond (by decide) hstands.found_eq hreported rfl
    ((Status.service_ofPlacements_eq_started_iff true r.definition _).2 huse)

/-- The subsystem cannot be created over a resource whose volume has another size, and no volume can
be added while it runs; neither changes anything. -/
theorem eq_of_rejected_subsystem :
    (∃ err, (gateway halfSecond).create plainSubsystem largerCluster = (.error err, largerCluster)
      ∧ err.kind = .conflict)
    ∧ ∃ err, (gateway halfSecond).addVolume dataNqn { number := 2, sizeKib := 1024 }
        (createdCluster plainSubsystem) = (.error err, createdCluster plainSubsystem)
      ∧ err.kind = .conflict := by
  constructor
  · have hfailure : failure ((gateway halfSecond).create plainSubsystem) largerCluster
        = some .conflict := by decide +kernel
    obtain ⟨err, t, hrun, hkind⟩ := failure_eq_some_iff.1 hfailure
    obtain rfl := (eq_of_rejected halfSecond (.inr hkind)).1 plainSubsystem hrun
    exact ⟨err, hrun, hkind⟩
  · obtain ⟨err, t, hrun, hkind⟩ := failure_eq_some_iff.1 failure_addVolume_createdCluster
    have hsame : t = createdCluster plainSubsystem :=
      (eq_of_rejected halfSecond (.inr hkind)).2 dataNqn _ hrun
    rw [hsame] at hrun
    exact ⟨err, hrun, hkind⟩

end Operation

end FailoverStorage

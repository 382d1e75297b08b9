import FailoverStorage.Gateway.Reconciler
import FailoverStorage.Proofs.Gateway.Action

/-!
# A part of the state in view

A gateway acts by the calls of its backend and does not look into the state.  So if the calls of one
backend do, on a part of its state, what those of another backend do, then every operation of a
gateway does, too.

`Action.Lifts view a b` says that `b` does on the part in view what `a` does, with the same result;
`Backend.Lifts` says so of every call.  The lemmas for gateways follow the operations, and they are
what lets a backend be instrumented without a change of behaviour.
-/

namespace FailoverStorage

namespace Action

variable {σ τ α β : Type} {view : τ → σ}

/-- **An action on a larger state does what another does on the part in view.** -/
def Lifts (view : τ → σ) (a : Action σ α) (b : Action τ α) : Prop :=
  ∀ x, a (view x) = ((b x).1, view (b x).2)

namespace Lifts

lemma pure (x : α) : Lifts view (Pure.pure x) (Pure.pure x) := fun _ => rfl

lemma throw (err : Error) :
    Lifts view (MonadExcept.throw err : Action σ α) (MonadExcept.throw err) := fun _ => rfl

lemma ofExcept (result : Except Error α) :
    Lifts view (Action.ofExcept result) (Action.ofExcept result) := fun _ => rfl

lemma bind {a : Action σ α} {b : Action τ α} {f : α → Action σ β} {g : α → Action τ β}
    (h : Lifts view a b) (hf : ∀ x, Lifts view (f x) (g x)) :
    Lifts view (a >>= f) (b >>= g) := by
  intro x
  rcases hb : b x with ⟨err | y, t⟩
  · have ha : a (view x) = (.error err, view t) := by rw [h x, hb]
    rw [bind_apply_error ha, bind_apply_error hb]
  · have ha : a (view x) = (.ok y, view t) := by rw [h x, hb]
    rw [bind_apply_ok ha, bind_apply_ok hb, hf y t]

lemma inPhase {a : Action σ α} {b : Action τ α} (phase : String) (h : Lifts view a b) :
    Lifts view (a.inPhase phase) (b.inPhase phase) := by
  intro x
  rw [Action.inPhase, h x]
  rfl

lemma orAbsent {a : Action σ Unit} {b : Action τ Unit} (h : Lifts view a b) :
    Lifts view a.orAbsent b.orAbsent := by
  intro x
  rw [Action.orAbsent, Action.orAbsent, h x]
  rcases b x with ⟨_ | _, _⟩ <;> rfl

lemma getD {a : Action σ α} {b : Action τ α} (h : Lifts view a b) (default : α) :
    Lifts view (a.getD default) (b.getD default) := by
  intro x
  rw [Action.getD, Action.getD, h x]
  rcases b x with ⟨_ | _, _⟩ <;> rfl

end Lifts

end Action

open FailoverStorage.Action

variable {σ τ : Type} {view : τ → σ}

/-- **Every call of a backend does what that of another does on the part in view.** -/
structure Backend.Lifts (view : τ → σ) (b : Backend σ) (b' : Backend τ) : Prop where
  ensure : ∀ request mayExtend, Action.Lifts view (b.storage.ensure request mayExtend)
    (b'.storage.ensure request mayExtend)
  deleteResource : ∀ name,
    Action.Lifts view (b.storage.deleteResource name) (b'.storage.deleteResource name)
  deleteVolume : ∀ name number, Action.Lifts view (b.storage.deleteVolume name number)
    (b'.storage.deleteVolume name number)
  deployed : ∀ name, Action.Lifts view (b.storage.deployed name) (b'.storage.deployed name)
  placements : ∀ name, Action.Lifts view (b.storage.placements name) (b'.storage.placements name)
  find : ∀ id, Action.Lifts view (b.configs.find id) (b'.configs.find id)
  list : Action.Lifts view b.configs.list b'.configs.list
  ensureConfig : ∀ config, Action.Lifts view (b.configs.ensure config) (b'.configs.ensure config)
  attach : ∀ config, Action.Lifts view (b.configs.attach config) (b'.configs.attach config)
  detach : ∀ config, Action.Lifts view (b.configs.detach config) (b'.configs.detach config)
  delete : ∀ id, Action.Lifts view (b.configs.delete id) (b'.configs.delete id)

namespace Gateway

variable {p : Protocol} {b : Backend σ} {b' : Backend τ} (h : b.Lifts view b') (w : Waiter)

include h

/-! ## Reading -/

lemma lifts_find (id : p.Identity) : Lifts view (find ⟨b, w⟩ id) (find ⟨b', w⟩ id) :=
  (h.find _).inPhase _

lemma lifts_load (stored : StoredConfig) (resource : String) :
    Lifts view (load ⟨b, w⟩ p stored resource) (load ⟨b', w⟩ p stored resource) := by
  refine .bind ((h.deployed resource).inPhase _) fun deployed => ?_
  exact .bind (.ofExcept _) fun e => .pure _

lemma lifts_get (id : p.Identity) : Lifts view (get ⟨b, w⟩ id) (get ⟨b', w⟩ id) := by
  refine .bind (lifts_find h w id) fun stored? => ?_
  cases stored? with
  | none => exact .pure _
  | some stored => exact .bind (lifts_load h w stored _) fun x => .pure _

lemma lifts_configs : Lifts view (configs ⟨b, w⟩) (configs ⟨b', w⟩) :=
  h.list.inPhase _

lemma lifts_endpointsOf (stored : List StoredConfig) :
    Lifts view (endpointsOf ⟨b, w⟩ p stored) (endpointsOf ⟨b', w⟩ p stored) := by
  induction stored with
  | nil => exact .pure _
  | cons stored rest ih =>
      rw [endpointsOf, endpointsOf]
      cases p.resourceOfConfigId stored.config.id with
      | none => exact ih
      | some resource =>
          refine .bind ((h.deployed resource).getD {}) fun deployed => .bind ih fun others => ?_
          cases reconstruct p stored deployed with
          | ok e => exact .pure _
          | error err => exact .pure _

lemma lifts_list (p : Protocol) : Lifts view (list ⟨b, w⟩ p) (list ⟨b', w⟩ p) :=
  .bind (lifts_configs h w) fun stored => lifts_endpointsOf h w stored

lemma lifts_checkExclusive (id : p.Identity) :
    Lifts view (checkExclusive ⟨b, w⟩ id) (checkExclusive ⟨b', w⟩ id) := by
  rw [checkExclusive, checkExclusive]
  cases p.exclusiveKind with
  | none => exact .pure _
  | some kind =>
      refine .bind (lifts_configs h w) fun stored => ?_
      simp only
      split
      · exact .pure _
      · exact .throw _

/-! ## Waiting -/

lemma lifts_poll (name phase : String) (done : List Placement → Bool) (late : Error)
    (count : Nat) :
    Lifts view (Waiter.poll ((b.storage.placements name).inPhase phase) done late count)
      (Waiter.poll ((b'.storage.placements name).inPhase phase) done late count) := by
  induction count with
  | zero => exact .throw _
  | succ count ih =>
      rw [Waiter.poll, Waiter.poll]
      refine .bind ((h.placements name).inPhase phase) fun placements => ?_
      split
      · exact .pure _
      · exact ih

lemma lifts_await (name goal : String) (done : List Placement → Bool) :
    Lifts view (await ⟨b, w⟩ name goal done) (await ⟨b', w⟩ name goal done) := by
  refine .inPhase _ ?_
  rw [Waiter.waitUntil, Waiter.waitUntil]
  split
  · exact .throw _
  · exact lifts_poll h name _ done _ _

/-! ## Operations -/

/-- Starting and stopping are one argument. -/
lemma lifts_switch (id : p.Identity) {change : PromoterConfig → Action σ Unit}
    {change' : PromoterConfig → Action τ Unit}
    (hchange : ∀ config, Lifts view (change config) (change' config)) (phase goal : String)
    (done : List Placement → Bool) :
    Lifts view
      (do
        match ← find ⟨b, w⟩ id with
        | none => return none
        | some stored =>
          (change stored.config).inPhase (phase ++ stored.config.id)
          await ⟨b, w⟩ (Protocol.resourceName id) goal done
          get ⟨b, w⟩ id)
      (do
        match ← find ⟨b', w⟩ id with
        | none => return none
        | some stored =>
          (change' stored.config).inPhase (phase ++ stored.config.id)
          await ⟨b', w⟩ (Protocol.resourceName id) goal done
          get ⟨b', w⟩ id) := by
  refine .bind (lifts_find h w id) fun stored? => ?_
  cases stored? with
  | none => exact .pure _
  | some stored =>
      refine .bind ((hchange _).inPhase _) fun _ => ?_
      exact .bind (lifts_await h w _ _ _) fun _ => lifts_get h w id

lemma lifts_start (id : p.Identity) : Lifts view (start ⟨b, w⟩ id) (start ⟨b', w⟩ id) :=
  lifts_switch h w id h.attach _ _ _

lemma lifts_stop (id : p.Identity) : Lifts view (stop ⟨b, w⟩ id) (stop ⟨b', w⟩ id) :=
  lifts_switch h w id h.detach _ _ _

lemma lifts_store (e : Endpoint p) (placements : List Placement) (verb : String) :
    Lifts view (store ⟨b, w⟩ e placements verb) (store ⟨b', w⟩ e placements verb) :=
  .bind (.ofExcept _) fun config => (h.ensureConfig config).inPhase _

lemma lifts_create (requested : Endpoint p) :
    Lifts view (create ⟨b, w⟩ requested) (create ⟨b', w⟩ requested) := by
  refine .bind (.ofExcept _) fun _ => .bind (lifts_checkExclusive h w _) fun _ => ?_
  refine .bind (lifts_find h w _) fun stored? => ?_
  cases stored? with
  | some stored =>
      refine .bind (lifts_load h w stored _) fun x => ?_
      simp only
      split
      · exact .pure _
      · exact .throw _
  | none =>
      refine .bind ((h.ensure _ _).inPhase _) fun deployment => ?_
      refine .bind (lifts_store h w _ _ _) fun _ => .bind (lifts_start h w _) fun started => ?_
      cases started with
      | some e => exact .pure _
      | none => exact .throw _

lemma lifts_delete (id : p.Identity) : Lifts view (delete ⟨b, w⟩ id) (delete ⟨b', w⟩ id) := by
  refine .bind ((h.delete _).inPhase _) fun _ => .bind (lifts_await h w _ _ _) fun _ => ?_
  exact (h.deleteResource _).orAbsent.inPhase _

lemma lifts_withVolume (id : p.Identity) (e : Endpoint p) (deployed : DeployedState) (v : Volume) :
    Lifts view (withVolume ⟨b, w⟩ id e deployed v) (withVolume ⟨b', w⟩ id e deployed v) := by
  rw [withVolume, withVolume]
  split
  · split
    · exact .pure _
    · exact .throw _
  split
  · exact .throw _
  refine .bind (.ofExcept _) fun _ => .bind ((h.ensure _ _).inPhase _) fun deployment => ?_
  exact .pure _

lemma lifts_addVolume (id : p.Identity) (v : Volume) :
    Lifts view (addVolume ⟨b, w⟩ id v) (addVolume ⟨b', w⟩ id v) := by
  refine .bind (.ofExcept _) fun _ => .bind (lifts_find h w id) fun stored? => ?_
  cases stored? with
  | none => exact .pure _
  | some stored =>
      refine .bind (lifts_load h w stored _) fun x => ?_
      refine .bind (lifts_withVolume h w id x.1 x.2 v) fun y => ?_
      exact .bind (lifts_store h w y.1 y.2 _) fun _ => lifts_get h w id

lemma lifts_deleteVolume (id : p.Identity) (number : UInt32) :
    Lifts view (deleteVolume ⟨b, w⟩ id number) (deleteVolume ⟨b', w⟩ id number) := by
  rw [deleteVolume, deleteVolume]
  split
  · exact .throw _
  refine .bind (lifts_find h w id) fun stored? => ?_
  cases stored? with
  | none => exact .pure _
  | some stored =>
      refine .bind (lifts_load h w stored _) fun x => ?_
      simp only
      split
      · exact .throw _
      refine .bind ((h.deleteVolume _ _).orAbsent.inPhase _) fun _ => ?_
      exact .bind (lifts_store h w _ _ _) fun _ => lifts_get h w id

end Gateway

end FailoverStorage

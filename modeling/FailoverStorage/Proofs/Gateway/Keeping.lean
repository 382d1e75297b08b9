import FailoverStorage.Gateway.Reconciler
import FailoverStorage.Proofs.Gateway.Action

/-!
# What a gateway keeps

A gateway acts on its backend only by the calls of the two stores.  So what every call that an
operation makes keeps is kept by the operation, over any backend and whether it succeeds or fails.

* `Backend.ReadsKeep b P`: looking something up keeps `P`.  Polling placements is apart, for a
  simulated transition advances with each poll.
* `Backend.Preserves b P`: so do the calls by which an endpoint is created.
-/

namespace FailoverStorage

open FailoverStorage.Action

variable {σ : Type} {p : Protocol}

namespace Backend

/-- **Looking something up** keeps what a predicate says. -/
structure ReadsKeep (b : Backend σ) (P : σ → Prop) : Prop where
  deployed : ∀ name, Keeps P (b.storage.deployed name)
  find : ∀ id, Keeps P (b.configs.find id)
  list : Keeps P b.configs.list

/-- **The calls by which an endpoint is created** keep what a predicate says. -/
structure Preserves (b : Backend σ) (P : σ → Prop) : Prop extends b.ReadsKeep P where
  placements : ∀ name, Keeps P (b.storage.placements name)
  ensureResource : ∀ request mayExtend, Keeps P (b.storage.ensure request mayExtend)
  ensureConfig : ∀ config, Keeps P (b.configs.ensure config)
  attach : ∀ config, Keeps P (b.configs.attach config)

end Backend

namespace Gateway

variable {g : Gateway σ} {P Q R : σ → Prop}

/-! ## Reading -/

lemma keeps_find (h : g.backend.ReadsKeep P) (id : p.Identity) : Keeps P (g.find id) :=
  Triple.inPhase _ (h.find _)

lemma keeps_load (h : g.backend.ReadsKeep P) (stored : StoredConfig) (resource : String) :
    Keeps P (g.load p stored resource) := by
  refine Triple.bind (Triple.inPhase _ (h.deployed resource)) fun deployed => ?_
  refine Triple.bind ((readOnly_ofExcept _).keeps P) fun e => ?_
  exact (readOnly_pure _).keeps P

lemma keeps_get (h : g.backend.ReadsKeep P) (id : p.Identity) : Keeps P (g.get id) := by
  refine Triple.bind (keeps_find h id) fun stored? => ?_
  cases stored? with
  | none => exact (readOnly_pure _).keeps P
  | some stored =>
      exact Triple.bind (keeps_load h stored _) fun _ => (readOnly_pure _).keeps P

lemma keeps_configs (h : g.backend.ReadsKeep P) : Keeps P g.configs :=
  Triple.inPhase _ h.list

lemma keeps_endpointsOf (h : g.backend.ReadsKeep P) (configs : List StoredConfig) :
    Keeps P (g.endpointsOf p configs) := by
  induction configs with
  | nil => exact (readOnly_pure _).keeps P
  | cons stored rest ih =>
      rw [endpointsOf]
      cases p.resourceOfConfigId stored.config.id with
      | none => exact ih
      | some resource =>
          refine Triple.bind ((h.deployed resource).getD fun _ hs => hs) fun deployed => ?_
          refine Triple.bind ih fun others => ?_
          cases reconstruct p stored deployed with
          | ok e => exact (readOnly_pure _).keeps P
          | error err => exact (readOnly_pure _).keeps P

lemma keeps_list (h : g.backend.ReadsKeep P) : Keeps P (g.list p) :=
  Triple.bind (keeps_configs h) fun configs => keeps_endpointsOf h configs

lemma keeps_checkExclusive (h : g.backend.ReadsKeep P) (id : p.Identity) :
    Keeps P (g.checkExclusive id) := by
  rw [checkExclusive]
  cases p.exclusiveKind with
  | none => exact (readOnly_pure _).keeps P
  | some kind =>
      refine Triple.bind (keeps_configs h) fun configs => ?_
      simp only
      split
      · exact (readOnly_pure _).keeps P
      · exact (readOnly_throw _).keeps P

/-! ## Waiting -/

lemma keeps_poll {read : Action σ (List Placement)} (h : Keeps P read)
    (done : List Placement → Bool) (late : Error) (count : Nat) :
    Keeps P (Waiter.poll read done late count) := by
  induction count with
  | zero => exact (readOnly_throw late).keeps P
  | succ count ih =>
      rw [Waiter.poll]
      refine Triple.bind h fun placements => ?_
      split
      · exact (readOnly_pure ()).keeps P
      · exact ih

/-- **Waiting keeps what reading placements keeps.** -/
lemma keeps_await {name : String} (h : Keeps P (g.backend.storage.placements name)) (goal : String)
    (done : List Placement → Bool) : Keeps P (g.await name goal done) := by
  refine Triple.inPhase _ ?_
  rw [Waiter.waitUntil]
  split
  · exact (readOnly_throw _).keeps P
  · exact keeps_poll (Triple.inPhase _ h) done _ _

/-! ## Creating -/

lemma keeps_start (h : g.backend.Preserves P) (id : p.Identity) : Keeps P (g.start id) := by
  refine Triple.bind (keeps_find h.toReadsKeep id) fun stored? => ?_
  cases stored? with
  | none => exact (readOnly_pure _).keeps P
  | some stored =>
      refine Triple.bind (Triple.inPhase _ (h.attach stored.config)) fun _ => ?_
      refine Triple.bind (keeps_await (h.placements _) _ _) fun _ => ?_
      exact keeps_get h.toReadsKeep id

lemma keeps_store (h : g.backend.Preserves P) (e : Endpoint p) (placements : List Placement)
    (verb : String) : Keeps P (g.store e placements verb) := by
  refine Triple.bind ((readOnly_ofExcept _).keeps P) fun config => ?_
  exact Triple.inPhase _ (h.ensureConfig config)

/-- **Creating an endpoint** is a check of the other configurations and, if it passes, calls that
keep what it ensures. -/
lemma triple_create (requested : Endpoint p)
    (hcheck : Triple P (g.checkExclusive requested.identity) (fun _ => Q) R)
    (hrest : g.backend.Preserves Q) (hP : ∀ s, P s → R s) (hQ : ∀ s, Q s → R s) :
    Triple P (g.create requested) (fun _ => Q) R := by
  have hkept : ∀ {α : Type} {a : Action σ α}, Keeps Q a → Triple Q a (fun _ => Q) R :=
    fun h => h.imp (fun _ hs => hs) (fun _ _ hs => hs) hQ
  refine Triple.bind (Triple.ofExcept (fun _ _ _ hs => hs) hP) fun _ => ?_
  refine Triple.bind hcheck fun _ => ?_
  refine Triple.bind (hkept (keeps_find hrest.toReadsKeep _)) fun stored? => ?_
  cases stored? with
  | some stored =>
      refine Triple.bind (hkept (keeps_load hrest.toReadsKeep stored _)) fun x => ?_
      simp only
      split
      · exact Triple.pure fun _ hs => hs
      · exact Triple.throw hQ
  | none =>
      refine Triple.bind (hkept (Triple.inPhase _ (hrest.ensureResource _ _))) fun deployment => ?_
      refine Triple.bind (hkept (keeps_store hrest _ _ _)) fun _ => ?_
      refine Triple.bind (hkept (keeps_start hrest _)) fun started => ?_
      cases started with
      | some e => exact Triple.pure fun _ hs => hs
      | none => exact Triple.throw hQ

end Gateway

end FailoverStorage

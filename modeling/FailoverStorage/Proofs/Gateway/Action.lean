import FailoverStorage.Gateway.Backend
import Mathlib.Tactic.Common

/-!
# Reasoning about actions

An action on a state may fail after it changed the state, so what is proved about one has two sides:
`Action.Triple P a Q R` says that from a state with `P` the action leads to a value and a state with
`Q`, or fails and leaves a state with `R`.  Most actions of a gateway only keep something;
`Action.Keeps P a` is a triple with the same predicate on all sides.  `Action.Alike a a'` compares
two actions, which may be of different states, by their results alone.

The rules follow the shape of a `do` block, one for each way in which actions are put together.
-/

namespace FailoverStorage.Action

variable {σ α β : Type}

/-! ## Running -/

@[simp] lemma get_apply (s : σ) : (get : Action σ σ) s = (.ok s, s) := rfl

@[simp] lemma modify_apply (f : σ → σ) (s : σ) :
    (modify f : Action σ PUnit) s = (.ok ⟨⟩, f s) := rfl

lemma bind_apply (a : Action σ α) (f : α → Action σ β) (s : σ) :
    (a >>= f) s = match a s with
      | (.ok x, t) => f x t
      | (.error err, t) => (.error err, t) := by
  show (ExceptT.bindCont f (a s).1 : StateM σ _) (a s).2 = _
  rcases h : a s with ⟨_ | _, _⟩ <;> rfl

lemma bind_apply_ok {a : Action σ α} {s t : σ} {x : α} (h : a s = (.ok x, t))
    (f : α → Action σ β) : (a >>= f) s = f x t := by
  rw [bind_apply, h]

lemma bind_apply_error {a : Action σ α} {s t : σ} {err : Error} (h : a s = (.error err, t))
    (f : α → Action σ β) : (a >>= f) s = (.error err, t) := by
  rw [bind_apply, h]

lemma map_apply (f : α → β) (a : Action σ α) (s : σ) :
    (f <$> a) s = (f <$> (a s).1, (a s).2) := by
  rw [← bind_pure_comp, bind_apply]
  rcases a s with ⟨_ | _, _⟩ <;> rfl

lemma tryCatch_apply (a : Action σ α) (f : Error → Action σ α) (s : σ) :
    (tryCatch a f) s = match a s with
      | (.ok x, t) => (.ok x, t)
      | (.error err, t) => f err t := by
  simp only [tryCatch, tryCatchThe, MonadExceptOf.tryCatch, ExceptT.tryCatch, ExceptT.mk]
  show StateT.bind (m := Id) a _ s = _
  simp only [StateT.bind]
  rcases a s with ⟨_ | _, _⟩ <;> rfl

lemma inPhase_apply_ok {a : Action σ α} {s t : σ} {x : α} (phase : String)
    (h : a s = (.ok x, t)) : a.inPhase phase s = (.ok x, t) := by
  rw [Action.inPhase, h]
  rfl

lemma state_inPhase (phase : String) (a : Action σ α) (s : σ) :
    (a.inPhase phase s).2 = (a s).2 := rfl

lemma state_orAbsent (a : Action σ Unit) (s : σ) : (a.orAbsent s).2 = (a s).2 := by
  rw [Action.orAbsent]
  rcases a s with ⟨_ | _, _⟩ <;> rfl

/-! ## Triples -/

/-- **From a state with `P` an action leads to a value and a state with `Q`, or fails and leaves a
state with `R`.** -/
def Triple (P : σ → Prop) (a : Action σ α) (Q : α → σ → Prop) (R : σ → Prop) : Prop :=
  ∀ s, P s → (∀ x t, a s = (.ok x, t) → Q x t) ∧ ∀ err t, a s = (.error err, t) → R t

/-- An action keeps what a predicate says, whether it succeeds or fails. -/
def Keeps (P : σ → Prop) (a : Action σ α) : Prop := Triple P a (fun _ => P) P

variable {P P' R R' : σ → Prop} {Q Q' : α → σ → Prop} {S : β → σ → Prop}

/-- A triple says where an action ends. -/
lemma Triple.state {a : Action σ α} (h : Triple P a (fun _ => R) R) {s : σ} (hs : P s) :
    R (a s).2 := by
  obtain ⟨hok, herror⟩ := h s hs
  rcases hrun : a s with ⟨err | x, t⟩
  · exact herror err t hrun
  · exact hok x t hrun

/-- What holds however an action ends shows in its last state. -/
lemma Triple.of_state {a : Action σ α} (h : ∀ s, P s → R (a s).2) :
    Triple P a (fun _ => R) R := by
  intro s hs
  have hstate := h s hs
  refine ⟨fun x t hrun => ?_, fun err t hrun => ?_⟩
  · rwa [hrun] at hstate
  · rwa [hrun] at hstate

lemma Triple.imp {a : Action σ α} (h : Triple P a Q R) (hP : ∀ s, P' s → P s)
    (hQ : ∀ x s, Q x s → Q' x s) (hR : ∀ s, R s → R' s) : Triple P' a Q' R' := by
  intro s hs
  obtain ⟨hok, herror⟩ := h s (hP s hs)
  exact ⟨fun x t hrun => hQ x t (hok x t hrun), fun err t hrun => hR t (herror err t hrun)⟩

lemma Triple.and {a : Action σ α} (h : Triple P a Q R) (h' : Triple P' a Q' R') :
    Triple (fun s => P s ∧ P' s) a (fun x s => Q x s ∧ Q' x s) fun s => R s ∧ R' s := by
  intro s hs
  obtain ⟨hok, herror⟩ := h s hs.1
  obtain ⟨hok', herror'⟩ := h' s hs.2
  exact ⟨fun x t hrun => ⟨hok x t hrun, hok' x t hrun⟩,
    fun err t hrun => ⟨herror err t hrun, herror' err t hrun⟩⟩

/-- A precondition that the state does not show can be assumed. -/
lemma Triple.of_forall {a : Action σ α} {p : Prop} (h : p → Triple P a Q R) :
    Triple (fun s => p ∧ P s) a Q R :=
  fun s hs => h hs.1 s hs.2

lemma Triple.pure {x : α} (h : ∀ s, P s → Q x s) : Triple P (Pure.pure x : Action σ α) Q R := by
  intro s hs
  refine ⟨fun y t hrun => ?_, fun err t hrun => ?_⟩
  · cases hrun
    exact h s hs
  · cases hrun

lemma Triple.throw {err : Error} (h : ∀ s, P s → R s) :
    Triple P (MonadExcept.throw err : Action σ α) Q R := by
  intro s hs
  refine ⟨fun y t hrun => ?_, fun err t hrun => ?_⟩
  · cases hrun
  · cases hrun
    exact h s hs

lemma Triple.ofExcept {result : Except Error α} (hQ : ∀ x s, result = .ok x → P s → Q x s)
    (hR : ∀ s, P s → R s) : Triple P (ofExcept result) Q R := by
  intro s hs
  refine ⟨fun y t hrun => ?_, fun err t hrun => ?_⟩
  · obtain ⟨hresult, rfl⟩ := Prod.mk.inj hrun
    exact hQ y s hresult hs
  · obtain ⟨-, rfl⟩ := Prod.mk.inj hrun
    exact hR s hs

lemma Triple.bind {a : Action σ α} {f : α → Action σ β} (ha : Triple P a Q R)
    (hf : ∀ x, Triple (Q x) (f x) S R) : Triple P (a >>= f) S R := by
  intro s hs
  obtain ⟨hok, herror⟩ := ha s hs
  rcases hrun : a s with ⟨err | x, t⟩
  · rw [bind_apply_error hrun]
    refine ⟨fun y u h => ?_, fun err' u h => ?_⟩
    · cases h
    · cases h
      exact herror _ _ hrun
  · rw [bind_apply_ok hrun]
    exact hf x t (hok x t hrun)

lemma Triple.map {a : Action σ α} {f : α → β} (h : Triple P a (fun x => S (f x)) R) :
    Triple P (f <$> a) S R := by
  rw [← bind_pure_comp]
  exact Triple.bind h fun _ => Triple.pure fun _ hs => hs

/-- Naming the phase of an error changes no state. -/
lemma Triple.inPhase {a : Action σ α} (phase : String) (h : Triple P a Q R) :
    Triple P (a.inPhase phase) Q R := by
  intro s hs
  obtain ⟨hok, herror⟩ := h s hs
  rcases hrun : a s with ⟨err | x, t⟩
  · have hphase : a.inPhase phase s = (FailoverStorage.inPhase phase (.error err), t) := by
      rw [Action.inPhase, hrun]
    refine ⟨fun y u h => ?_, fun err' u h => ?_⟩
    · rw [hphase] at h
      cases h
    · rw [hphase] at h
      obtain ⟨-, rfl⟩ := Prod.mk.inj h
      exact herror _ _ hrun
  · have hphase : a.inPhase phase s = (FailoverStorage.inPhase phase (.ok x), t) := by
      rw [Action.inPhase, hrun]
    refine ⟨fun y u h => ?_, fun err' u h => ?_⟩
    · rw [hphase] at h
      obtain ⟨hx, rfl⟩ := Prod.mk.inj h
      cases hx
      exact hok _ _ hrun
    · rw [hphase] at h
      cases h

/-- An object that does not exist counts as a success. -/
lemma Triple.orAbsent {Q R S : σ → Prop} {a : Action σ Unit} (h : Triple P a (fun _ => Q) R)
    (hQ : ∀ s, Q s → S s) (hR : ∀ s, R s → S s) : Triple P a.orAbsent (fun _ => S) R := by
  intro s hs
  obtain ⟨hok, herror⟩ := h s hs
  rcases hrun : a s with ⟨err | x, t⟩
  · have habsent : a.orAbsent s = (if err.isNotFound then .ok () else .error err, t) := by
      rw [Action.orAbsent, hrun]
    refine ⟨fun y u h => ?_, fun err' u h => ?_⟩
    · rw [habsent] at h
      obtain ⟨-, rfl⟩ := Prod.mk.inj h
      exact hR _ (herror _ _ hrun)
    · rw [habsent] at h
      obtain ⟨-, rfl⟩ := Prod.mk.inj h
      exact herror _ _ hrun
  · have habsent : a.orAbsent s = (.ok x, t) := by
      rw [Action.orAbsent, hrun]
    refine ⟨fun y u h => ?_, fun err' u h => ?_⟩
    · rw [habsent] at h
      obtain ⟨-, rfl⟩ := Prod.mk.inj h
      exact hQ _ (hok _ _ hrun)
    · rw [habsent] at h
      cases h

/-- A failure counts as a value. -/
lemma Triple.getD {a : Action σ α} (h : Triple P a Q R) {default : α}
    (hdefault : ∀ s, R s → Q default s) : Triple P (a.getD default) Q R' := by
  intro s hs
  obtain ⟨hok, herror⟩ := h s hs
  rcases hrun : a s with ⟨err | x, t⟩
  · have hgetD : a.getD default s = (.ok default, t) := by
      rw [Action.getD, hrun]
    refine ⟨fun y u h => ?_, fun err' u h => ?_⟩
    · rw [hgetD] at h
      cases h
      exact hdefault t (herror err t hrun)
    · rw [hgetD] at h
      cases h
  · have hgetD : a.getD default s = (.ok x, t) := by
      rw [Action.getD, hrun]
    refine ⟨fun y u h => ?_, fun err' u h => ?_⟩
    · rw [hgetD] at h
      cases h
      exact hok x t hrun
    · rw [hgetD] at h
      cases h

/-! ## Actions that only read -/

/-- An action leaves every state as it is. -/
def ReadOnly (a : Action σ α) : Prop := ∀ s, (a s).2 = s

lemma ReadOnly.keeps {a : Action σ α} (h : ReadOnly a) (P : σ → Prop) : Keeps P a :=
  Triple.of_state fun s hs => by rwa [h s]

lemma ReadOnly.of_keeps {a : Action σ α} (h : ∀ s, Keeps (· = s) a) : ReadOnly a :=
  fun s => (h s).state rfl

/-- From a given state an action that only reads leads to its value there. -/
lemma ReadOnly.triple {a : Action σ α} (h : ReadOnly a) {s : σ} (hs : R s) :
    Triple (· = s) a (fun x t => a s = (.ok x, s) ∧ t = s) R := by
  rintro t rfl
  have hstate := h t
  refine ⟨fun x u hrun => ?_, fun err u hrun => ?_⟩
  all_goals
    rw [hrun] at hstate
    cases hstate
  · exact ⟨hrun, rfl⟩
  · exact hs

lemma readOnly_pure (x : α) : ReadOnly (Pure.pure x : Action σ α) := fun _ => rfl

lemma readOnly_throw (err : Error) : ReadOnly (MonadExcept.throw err : Action σ α) := fun _ => rfl

lemma readOnly_ofExcept (result : Except Error α) : ReadOnly (ofExcept result : Action σ α) :=
  fun _ => rfl

lemma ReadOnly.bind {a : Action σ α} {f : α → Action σ β} (ha : ReadOnly a)
    (hf : ∀ x, ReadOnly (f x)) : ReadOnly (a >>= f) := by
  intro s
  have hstate := ha s
  rcases hrun : a s with ⟨err | x, t⟩
  · rw [bind_apply_error hrun]
    rw [hrun] at hstate
    exact hstate
  · rw [bind_apply_ok hrun, hf x t]
    rw [hrun] at hstate
    exact hstate

/-! ## Actions with the same result -/

variable {τ : Type}

/-- **Two actions have the same result**, from whatever states.  An action that is alike to itself
has one result only. -/
def Alike (a : Action σ α) (a' : Action τ α) : Prop := ∀ s t, (a s).1 = (a' t).1

lemma alike_pure (x : α) : Alike (Pure.pure x : Action σ α) (Pure.pure x : Action τ α) :=
  fun _ _ => rfl

lemma Alike.bind {a : Action σ α} {a' : Action τ α} {f : α → Action σ β} {f' : α → Action τ β}
    (h : Alike a a') (hf : ∀ x, Alike (f x) (f' x)) : Alike (a >>= f) (a' >>= f') := by
  intro s t
  have hresult := h s t
  rw [bind_apply, bind_apply]
  rcases hs : a s with ⟨err | x, s'⟩ <;> rcases ht : a' t with ⟨err' | x', t'⟩ <;>
    rw [hs, ht] at hresult <;> cases hresult
  · rfl
  · exact hf x s' t'

lemma Alike.map {a : Action σ α} {a' : Action τ α} (h : Alike a a') (f : α → β) :
    Alike (f <$> a) (f <$> a') := by
  rw [← bind_pure_comp, ← bind_pure_comp]
  exact h.bind fun _ => alike_pure _

lemma result_bind {a : Action σ α} {f : α → Action σ β} {s : σ} {x : α} (h : (a s).1 = .ok x) :
    ((a >>= f) s).1 = (f x (a s).2).1 := by
  rw [bind_apply_ok (t := (a s).2) (Prod.ext h rfl)]

/-- The default counts from every state, or from none. -/
lemma Alike.result_getD {a : Action σ α} {a' : Action τ α} (h : Alike a a') (default : α) (s : σ)
    (t : τ) : (a.getD default s).1 = .ok ((a' t).1.toOption.getD default) := by
  rw [← h s t, Action.getD]
  rcases a s with ⟨_ | _, _⟩ <;> rfl

end FailoverStorage.Action

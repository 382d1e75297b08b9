import FailoverStorage.Proofs.Gateway.Views

/-!
# Recorded calls

A gateway acts on its stores by single calls, and what holds after an operation says little about
the states in between.  `Backend.recording` is a backend over the same stores which notes, for each
call, the state that the call found and the state that it left.  Something may happen to the state
before each call; what happens is given by the number of the call.

Where nothing happens in between, a recording does what is recorded (`Backend.lifts_recording`).

`Action.Guarded P b Q R` is a triple for recorded actions: from calls that were safe so far and lead
to a state with `P`, more safe calls lead to a state with `Q`, or to one with `R` if the action
fails.  What a single call may do enters in `Guarded.call` alone.
-/

namespace FailoverStorage

/-- A state with the calls so far, each as the states before and after it. -/
abbrev Recorded (σ : Type) : Type := σ × List (σ × σ)

namespace Action

variable {σ α : Type}

/-- **A call that is noted**, after what happens before it. -/
def recorded (between : Nat → σ → σ) (a : Action σ α) : Action (Recorded σ) α := fun (s, calls) =>
  let s := between calls.length s
  let (result, t) := a s
  (result, (t, calls ++ [(s, t)]))

end Action

/-- **A backend that notes every call.** -/
def Backend.recording {σ : Type} (between : Nat → σ → σ) (b : Backend σ) :
    Backend (Recorded σ) where
  storage :=
    { ensure := fun request mayExtend => (b.storage.ensure request mayExtend).recorded between
      deleteResource := fun name => (b.storage.deleteResource name).recorded between
      deleteVolume := fun name number => (b.storage.deleteVolume name number).recorded between
      deployed := fun name => (b.storage.deployed name).recorded between
      placements := fun name => (b.storage.placements name).recorded between }
  configs :=
    { find := fun id => (b.configs.find id).recorded between
      list := b.configs.list.recorded between
      ensure := fun config => (b.configs.ensure config).recorded between
      attach := fun config => (b.configs.attach config).recorded between
      detach := fun config => (b.configs.detach config).recorded between
      delete := fun id => (b.configs.delete id).recorded between }

/-- **Noting calls changes nothing.** -/
lemma Backend.lifts_recording {σ : Type} (b : Backend σ) :
    b.Lifts Prod.fst (b.recording fun _ s => s) :=
  ⟨fun _ _ _ => rfl, fun _ _ => rfl, fun _ _ _ => rfl, fun _ _ => rfl, fun _ _ => rfl,
    fun _ _ => rfl, fun _ => rfl, fun _ _ => rfl, fun _ _ => rfl, fun _ _ => rfl, fun _ _ => rfl⟩

namespace Action

variable {σ α β : Type} {between : Nat → σ → σ} {safe : σ → σ → Prop}

/-! ## Calls one after another -/

/-- **Calls lead from one state to another** if each begins where the one before it ended, after
what happens in between; the first has the given number. -/
def Leads (between : Nat → σ → σ) : Nat → σ → List (σ × σ) → σ → Prop
  | _, s, [], t => s = t
  | n, s, call :: rest, t => call.1 = between n s ∧ Leads between (n + 1) call.2 rest t

lemma Leads.concat {n : Nat} {s t u : σ} {calls : List (σ × σ)} (h : Leads between n s calls t) :
    Leads between n s (calls ++ [(between (n + calls.length) t, u)]) u := by
  induction calls generalizing n s with
  | nil =>
      obtain rfl : s = t := h
      exact ⟨rfl, rfl⟩
  | cons call rest ih =>
      obtain ⟨hcall, hrest⟩ := h
      have hlength : n + (call :: rest).length = n + 1 + rest.length := by
        rw [List.length_cons]
        omega
      rw [hlength]
      exact ⟨hcall, ih hrest⟩

/-! ## Guarded actions -/

/-- **Safe calls so far** lead from a start to a state with `P`. -/
structure Noted (between : Nat → σ → σ) (safe : σ → σ → Prop) (start : σ) (P : σ → Prop)
    (x : Recorded σ) : Prop where
  state : P x.1
  safe : ∀ call ∈ x.2, safe call.1 call.2
  leads : Leads between 0 start x.2 x.1

/-- **From safe calls an action goes on by safe calls**, whether it succeeds or fails. -/
def Guarded (between : Nat → σ → σ) (safe : σ → σ → Prop) (start : σ) (P : σ → Prop)
    (b : Action (Recorded σ) α) (Q : α → σ → Prop) (R : σ → Prop) : Prop :=
  Triple (Noted between safe start P) b (fun x => Noted between safe start (Q x))
    (Noted between safe start R)

variable {start : σ} {P P' R : σ → Prop} {Q : α → σ → Prop} {S : β → σ → Prop}

lemma Noted.imp {x : Recorded σ} (h : Noted between safe start P x) (hP : ∀ s, P s → P' s) :
    Noted between safe start P' x :=
  ⟨hP _ h.state, h.safe, h.leads⟩

namespace Guarded

/-- **A call is guarded** if it is safe, and what happens before it keeps what is needed for
that. -/
lemma call {a : Action σ α} (h : Triple P a Q R) (hbetween : ∀ n s, P s → P (between n s))
    (hsafe : ∀ s, P s → safe s (a s).2) :
    Guarded between safe start P (a.recorded between) Q R := by
  rintro ⟨s, calls⟩ ⟨hs, hcalls, hleads⟩
  have hs' := hbetween calls.length s hs
  obtain ⟨hok, herror⟩ := h _ hs'
  rcases hrun : a (between calls.length s) with ⟨result, t⟩
  have hrecorded : a.recorded between (s, calls)
      = (result, (t, calls ++ [(between calls.length s, t)])) := by
    rw [recorded, hrun]
  have hnoted : ∀ {T : σ → Prop}, T t →
      Noted between safe start T (t, calls ++ [(between calls.length s, t)]) := fun ht => by
    refine ⟨ht, fun call hcall => ?_, ?_⟩
    · rcases List.mem_append.1 hcall with hcall | hcall
      · exact hcalls call hcall
      · rw [List.mem_singleton.1 hcall]
        have hstep := hsafe _ hs'
        rwa [hrun] at hstep
    · have hlast := hleads.concat (u := t)
      rwa [Nat.zero_add] at hlast
  rw [hrecorded]
  refine ⟨fun x u heq => ?_, fun err u heq => ?_⟩
  · obtain ⟨rfl, rfl⟩ := Prod.mk.inj heq
    exact hnoted (hok x t hrun)
  · obtain ⟨rfl, rfl⟩ := Prod.mk.inj heq
    exact hnoted (herror err t hrun)

lemma of_imp {b : Action (Recorded σ) α} (h : Guarded between safe start P b Q R)
    (hP : ∀ s, P' s → P s) : Guarded between safe start P' b Q R :=
  Triple.imp h (fun _ hs => hs.imp hP) (fun _ _ hs => hs) fun _ hs => hs

lemma of_forall {b : Action (Recorded σ) α} {p : Prop}
    (h : p → Guarded between safe start P b Q R) :
    Guarded between safe start (fun s => p ∧ P s) b Q R :=
  fun x hx => h hx.state.1 x ⟨hx.state.2, hx.safe, hx.leads⟩

lemma pure {x : α} (h : ∀ s, P s → Q x s) : Guarded between safe start P (Pure.pure x) Q R :=
  Triple.pure fun _ hs => hs.imp h

lemma throw {err : Error} (h : ∀ s, P s → R s) :
    Guarded between safe start P (MonadExcept.throw err) Q R :=
  Triple.throw fun _ hs => hs.imp h

lemma ofExcept {result : Except Error α} (hQ : ∀ x s, result = .ok x → P s → Q x s)
    (hR : ∀ s, P s → R s) : Guarded between safe start P (Action.ofExcept result) Q R :=
  Triple.ofExcept (fun x _ hx hs => hs.imp fun s => hQ x s hx) fun _ hs => hs.imp hR

lemma bind {b : Action (Recorded σ) α} {f : α → Action (Recorded σ) β}
    (h : Guarded between safe start P b Q R)
    (hf : ∀ x, Guarded between safe start (Q x) (f x) S R) :
    Guarded between safe start P (b >>= f) S R :=
  Triple.bind h hf

lemma inPhase {b : Action (Recorded σ) α} (phase : String)
    (h : Guarded between safe start P b Q R) :
    Guarded between safe start P (b.inPhase phase) Q R :=
  Triple.inPhase phase h

lemma orAbsent {b : Action (Recorded σ) Unit}
    (h : Guarded between safe start P b (fun _ => R) R) :
    Guarded between safe start P b.orAbsent (fun _ => R) R :=
  Triple.orAbsent h (fun _ hs => hs) fun _ hs => hs

lemma getD {b : Action (Recorded σ) α} (h : Guarded between safe start P b (fun _ => R) R)
    (default : α) : Guarded between safe start P (b.getD default) (fun _ => R) R :=
  Triple.getD h fun _ hs => hs

end Guarded

end Action

end FailoverStorage

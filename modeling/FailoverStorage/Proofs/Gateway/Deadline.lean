import FailoverStorage.Proofs.Gateway.Recording
import Mathlib.Data.Nat.Find
import Mathlib.Logic.Function.Iterate
import Mathlib.Order.Bounds.Defs

/-!
# Polling against a deadline

A wait polls at once and then after each interval, and it gives up where the next poll would be past
the deadline.  Said with a clock, this is a loop that races the deadline (`Waiter.pollBy`).  Time
passes between polls only, so the number of polls that the loop has is known in advance, and it is
what `Waiter.polls` says (`Waiter.poll_polls`).

What a storage answers to one poll after another is a sequence (`Storage.answer`).  An answer that
satisfies the condition or fails decides a wait.  As long as none does, the loop goes on with the
next one (`Waiter.pollBy_of_undecided`).  So the first poll in time that decides a wait is its last
one, and a wait that none decides uses all the polls that fit its time (`Waiter.makes_polls`).
-/

namespace FailoverStorage

open FailoverStorage.Action

variable {σ : Type}

/-! ## Answers -/

namespace Storage

/-- The state after polls of a resource alone. -/
def afterPolls (storage : Storage σ) (name : String) (s : σ) (n : Nat) : σ :=
  (fun s => (storage.placements name s).2)^[n] s

/-- **What the poll with a number answers**, counted from 0, if there are only polls before it. -/
def answer (storage : Storage σ) (name : String) (s : σ) (k : Nat) :
    Except Error (List Placement) :=
  (storage.placements name (storage.afterPolls name s k)).1

variable {storage : Storage σ} {name : String} {s : σ} {k : Nat}

lemma afterPolls_succ (storage : Storage σ) (name : String) (s : σ) (k : Nat) :
    storage.afterPolls name s (k + 1)
      = (storage.placements name (storage.afterPolls name s k)).2 :=
  Function.iterate_succ_apply' _ _ _

lemma placements_afterPolls (storage : Storage σ) (name : String) (s : σ) (k : Nat) :
    storage.placements name (storage.afterPolls name s k)
      = (storage.answer name s k, storage.afterPolls name s (k + 1)) := by
  rw [afterPolls_succ]
  rfl

end Storage

/-- A backend that notes its calls answers as the one whose calls it notes, and notes each poll. -/
lemma Backend.afterPolls_recording (b : Backend σ) (name : String) (s : σ) (k : Nat) :
    ∃ calls, calls.length = k
      ∧ (b.recording fun _ s => s).storage.afterPolls name (s, []) k
        = (b.storage.afterPolls name s k, calls) := by
  induction k with
  | zero => exact ⟨[], rfl, rfl⟩
  | succ k ih =>
      obtain ⟨calls, hlength, hcalls⟩ := ih
      refine ⟨calls ++ [(b.storage.afterPolls name s k, b.storage.afterPolls name s (k + 1))],
        by rw [List.length_append, hlength, List.length_singleton], ?_⟩
      rw [Storage.afterPolls_succ, hcalls, Storage.afterPolls_succ]
      rfl

lemma Backend.answer_recording (b : Backend σ) (name : String) (s : σ) (k : Nat) :
    (b.recording fun _ s => s).storage.answer name (s, []) k = b.storage.answer name s k := by
  obtain ⟨calls, -, hcalls⟩ := b.afterPolls_recording name s k
  rw [Storage.answer, hcalls]
  rfl

namespace Waiter

/-- **An answer decides a wait** if it satisfies the condition or is a failure. -/
def Decides (done : List Placement → Bool) : Except Error (List Placement) → Prop
  | .ok found => done found = true
  | .error _ => True

/-- The failure of a wait that is late. -/
def lateness (w : Waiter) (name : String) : Error :=
  .timeout name ("condition not reached within " ++ Text.duration w.timeoutMs)

/-- What a wait comes to by an answer that decides it. -/
def verdict (name : String) : Except Error (List Placement) → Except Error Unit
  | .ok _ => .ok ()
  | .error err => .error (.context ("failed to poll resource " ++ name) err)

/-! ## The loop with a clock -/

/-- **Polls at a time and, unless that would be past the deadline, again after each interval.** -/
def pollBy (w : Waiter) (read : Action σ (List Placement)) (done : List Placement → Bool)
    (late : Error) (now : Nat) : Action σ Unit := do
  let placements ← read
  if done placements then return ()
  else if now + max w.intervalMs 1 ≤ w.timeoutMs then
    pollBy w read done late (now + max w.intervalMs 1)
  else throw late
termination_by w.timeoutMs - now

variable {w : Waiter} {read : Action σ (List Placement)} {done : List Placement → Bool}
  {late : Error} {now : Nat}

/-- Time passes between polls. -/
lemma interval_pos (w : Waiter) : 0 < max w.intervalMs 1 :=
  Nat.lt_of_lt_of_le Nat.zero_lt_one (Nat.le_max_right _ _)

/-- A poll that leaves time for another one. -/
lemma poll_eq_pollBy {count : Nat} (hnow : now ≤ w.timeoutMs)
    (hcount : (w.timeoutMs - now) / max w.intervalMs 1 = count) :
    poll read done late (count + 1) = w.pollBy read done late now := by
  induction count generalizing now with
  | zero =>
      have hshort := Nat.lt_of_div_eq_zero w.interval_pos hcount
      rw [poll, pollBy]
      simp only [if_neg (show ¬ now + max w.intervalMs 1 ≤ w.timeoutMs by omega)]
      rfl
  | succ count ih =>
      have hlong : max w.intervalMs 1 ≤ w.timeoutMs - now := by
        refine Nat.le_of_not_lt fun hlt => ?_
        rw [Nat.div_eq_of_lt hlt] at hcount
        cases hcount
      have hnext : (w.timeoutMs - (now + max w.intervalMs 1)) / max w.intervalMs 1 = count := by
        rw [Nat.div_eq_sub_div w.interval_pos hlong] at hcount
        rw [Nat.sub_add_eq]
        exact Nat.succ.inj hcount
      rw [poll, pollBy]
      simp only [if_pos (show now + max w.intervalMs 1 ≤ w.timeoutMs by omega)]
      rw [ih (by omega) hnext]

/-- **The polls that are counted in advance are those of the loop with a clock.** -/
lemma poll_polls (w : Waiter) (read : Action σ (List Placement)) (done : List Placement → Bool)
    (late : Error) : poll read done late w.polls = w.pollBy read done late 0 :=
  poll_eq_pollBy (Nat.zero_le _) (by rw [Nat.sub_zero])

/-! ## One poll -/

lemma pollBy_of_error {s t : σ} {err : Error} (h : read s = (.error err, t)) :
    w.pollBy read done late now s = (.error err, t) := by
  rw [pollBy, bind_apply_error h]

lemma pollBy_of_done {s t : σ} {found : List Placement} (h : read s = (.ok found, t))
    (hdone : done found = true) : w.pollBy read done late now s = (.ok (), t) := by
  rw [pollBy, bind_apply_ok h]
  simp only [hdone, if_true]
  rfl

lemma pollBy_of_not_done {s t : σ} {found : List Placement} (h : read s = (.ok found, t))
    (hdone : done found ≠ true) : w.pollBy read done late now s
      = if now + max w.intervalMs 1 ≤ w.timeoutMs
        then w.pollBy read done late (now + max w.intervalMs 1) t else (.error late, t) := by
  rw [pollBy, bind_apply_ok h]
  simp only [if_neg hdone]
  split <;> rfl

/-! ## A whole wait -/

section

variable (storage : Storage σ) (name : String) (s : σ)

/-- The reads of a wait, whose failures are reported as failures to poll. -/
def polling : Action σ (List Placement) :=
  (storage.placements name).inPhase ("failed to poll resource " ++ name)

/-- **The polls in time that decide a wait**, by their numbers. -/
def deciding (w : Waiter) (done : List Placement → Bool) : Set Nat :=
  {k | k * max w.intervalMs 1 ≤ w.timeoutMs ∧ Decides done (storage.answer name s k)}

variable {storage name s} {k : Nat}

lemma polling_of_ok {found : List Placement} (h : storage.answer name s k = .ok found) :
    polling storage name (storage.afterPolls name s k)
      = (.ok found, storage.afterPolls name s (k + 1)) := by
  rw [polling, inPhase_apply_ok _ (h ▸ storage.placements_afterPolls name s k)]

lemma polling_of_error {err : Error} (h : storage.answer name s k = .error err) :
    polling storage name (storage.afterPolls name s k)
      = (.error (.context ("failed to poll resource " ++ name) err),
        storage.afterPolls name s (k + 1)) := by
  rw [polling, Action.inPhase, storage.placements_afterPolls, h]
  rfl

/-- A poll that does not decide the wait found placements, but not what is waited for. -/
lemma exists_found_of_undecided (h : ¬ Decides done (storage.answer name s k)) :
    ∃ found, storage.answer name s k = .ok found ∧ done found ≠ true := by
  cases hanswer : storage.answer name s k with
  | ok found => exact ⟨found, rfl, by rwa [hanswer] at h⟩
  | error err =>
      rw [hanswer] at h
      exact absurd trivial h

/-- **As long as no poll decides the wait, it goes on.** -/
lemma pollBy_of_undecided (h : ∀ j < k, ¬ Decides done (storage.answer name s j))
    (htime : k * max w.intervalMs 1 ≤ w.timeoutMs) :
    w.pollBy (polling storage name) done late 0 s
      = w.pollBy (polling storage name) done late (k * max w.intervalMs 1)
        (storage.afterPolls name s k) := by
  induction k with
  | zero => rw [Nat.zero_mul]; rfl
  | succ k ih =>
      rw [Nat.succ_mul] at htime ⊢
      obtain ⟨found, hanswer, hdone⟩ := exists_found_of_undecided (h k (Nat.lt_succ_self k))
      rw [ih (fun j hj => h j (Nat.lt_succ_of_lt hj)) (by omega),
        pollBy_of_not_done (polling_of_ok hanswer) hdone, if_pos htime]

/-- A poll that decides the wait is its last one. -/
lemma pollBy_of_decides (h : Decides done (storage.answer name s k)) :
    w.pollBy (polling storage name) done late now (storage.afterPolls name s k)
      = (verdict name (storage.answer name s k), storage.afterPolls name s (k + 1)) := by
  cases hanswer : storage.answer name s k with
  | ok found => exact pollBy_of_done (polling_of_ok hanswer) (by rwa [hanswer] at h)
  | error err => exact pollBy_of_error (polling_of_error hanswer)

/-- **A wait is the loop with a clock**, from the time 0 on. -/
lemma waitUntil_eq_pollBy (hw : w.cancelled = false) (storage : Storage σ) (name : String)
    (done : List Placement → Bool) : w.waitUntil storage name done
      = w.pollBy (polling storage name) done (w.lateness name) 0 := by
  rw [waitUntil, if_neg (by rw [hw]; exact Bool.false_ne_true)]
  exact poll_polls w _ done _

/-- If a poll in time decides a wait, there is a first one. -/
lemma exists_isLeast_or_undecided (storage : Storage σ) (name : String) (s : σ) (w : Waiter)
    (done : List Placement → Bool) : (∃ k, IsLeast (deciding storage name s w done) k)
      ∨ ∀ k, k ∉ deciding storage name s w done := by
  classical
  by_cases hsome : ∃ k, k ∈ deciding storage name s w done
  · exact .inl ⟨Nat.find hsome, Nat.find_spec hsome, fun _ hk => Nat.find_min' hsome hk⟩
  · exact .inr (not_exists.1 hsome)

/-- **The first poll in time that decides a wait ends it.** -/
lemma waitUntil_of_isLeast (hw : w.cancelled = false)
    (h : IsLeast (deciding storage name s w done) k) :
    w.waitUntil storage name done s
      = (verdict name (storage.answer name s k), storage.afterPolls name s (k + 1)) := by
  obtain ⟨⟨htime, hdecides⟩, hleast⟩ := h
  have hbefore : ∀ j < k, ¬ Decides done (storage.answer name s j) := fun j hj hdecides =>
    absurd (hleast ⟨Nat.le_trans (Nat.mul_le_mul_right _ (Nat.le_of_lt hj)) htime, hdecides⟩)
      (Nat.not_le.2 hj)
  rw [waitUntil_eq_pollBy hw]
  exact (pollBy_of_undecided hbefore htime).trans (pollBy_of_decides hdecides)

/-- **A wait that no poll in time decides** uses all polls that fit its time, and is late. -/
lemma waitUntil_of_undecided (hw : w.cancelled = false)
    (h : ∀ k, k ∉ deciding storage name s w done) :
    w.waitUntil storage name done s
      = (.error (w.lateness name),
        storage.afterPolls name s (w.timeoutMs / max w.intervalMs 1 + 1)) := by
  set last := w.timeoutMs / max w.intervalMs 1
  have htime : last * max w.intervalMs 1 ≤ w.timeoutMs := Nat.div_mul_le_self _ _
  have hlate : ¬ last * max w.intervalMs 1 + max w.intervalMs 1 ≤ w.timeoutMs :=
    Nat.not_le.2 (Nat.lt_div_mul_add w.interval_pos)
  have hundecided : ∀ j ≤ last, ¬ Decides done (storage.answer name s j) := fun j hj hdecides =>
    h j ⟨Nat.le_trans (Nat.mul_le_mul_right _ hj) htime, hdecides⟩
  obtain ⟨found, hanswer, hdone⟩ := exists_found_of_undecided (hundecided last (Nat.le_refl _))
  rw [waitUntil_eq_pollBy hw]
  refine (pollBy_of_undecided (fun j hj => hundecided j (Nat.le_of_lt hj)) htime).trans ?_
  rw [pollBy_of_not_done (polling_of_ok hanswer) hdone, if_neg hlate]

end

/-- **A wait makes a number of polls and ends with a result**: it leaves the state after them, and a
backend that notes its calls notes just as many. -/
structure Makes (w : Waiter) (b : Backend σ) (name : String) (done : List Placement → Bool) (s : σ)
    (n : Nat) (result : Except Error Unit) : Prop where
  state : w.waitUntil b.storage name done s = (result, b.storage.afterPolls name s n)
  noted : ∃ calls, calls.length = n
    ∧ w.waitUntil (b.recording fun _ s => s).storage name done (s, [])
      = (result, (b.storage.afterPolls name s n, calls))

variable {b : Backend σ} {name : String} {s : σ} {k : Nat}

lemma deciding_recording : deciding (b.recording fun _ s => s).storage name (s, []) w done
    = deciding b.storage name s w done := by
  simp only [deciding, b.answer_recording]

lemma makes_of_isLeast (hw : w.cancelled = false)
    (h : IsLeast (deciding b.storage name s w done) k) :
    w.Makes b name done s (k + 1) (verdict name (b.storage.answer name s k)) := by
  obtain ⟨calls, hlength, hcalls⟩ := b.afterPolls_recording name s (k + 1)
  refine ⟨waitUntil_of_isLeast hw h, calls, hlength, ?_⟩
  rw [waitUntil_of_isLeast hw (by rwa [deciding_recording]), b.answer_recording, hcalls]

lemma makes_of_undecided (hw : w.cancelled = false)
    (h : ∀ k, k ∉ deciding b.storage name s w done) :
    w.Makes b name done s (w.timeoutMs / max w.intervalMs 1 + 1) (.error (w.lateness name)) := by
  obtain ⟨calls, hlength, hcalls⟩ :=
    b.afterPolls_recording name s (w.timeoutMs / max w.intervalMs 1 + 1)
  refine ⟨waitUntil_of_undecided hw h, calls, hlength, ?_⟩
  rw [waitUntil_of_undecided hw (by rwa [deciding_recording]), hcalls]

/-- **Bounded waiting**, whatever a storage answers and whatever is waited for.  A wait is a loop
with a clock, and makes at least one poll and no more than fit its time.  The first poll in time
that succeeds or fails ends it with a success, or with that failure.  Without such a poll all of
them are made and the wait is late. -/
theorem makes_polls (b : Backend σ) (name : String) (done : List Placement → Bool)
    (timeoutMs intervalMs : Nat) (s : σ) :
    waitUntil { timeoutMs, intervalMs } b.storage name done
        = pollBy { timeoutMs, intervalMs } (polling b.storage name) done
          (lateness { timeoutMs, intervalMs } name) 0
      ∧ ∃ n result, Makes { timeoutMs, intervalMs } b name done s n result
        ∧ 1 ≤ n ∧ n ≤ timeoutMs / max intervalMs 1 + 1
        ∧ ((∃ k, IsLeast {k | k * max intervalMs 1 ≤ timeoutMs
                ∧ Decides done (b.storage.answer name s k)} k
              ∧ n = k + 1
              ∧ match b.storage.answer name s k with
                | .ok found => done found = true ∧ result = .ok ()
                | .error err => ∃ e, result = .error e ∧ e.kind = err.kind ∧ e.root = err.root)
          ∨ (∀ k, k * max intervalMs 1 ≤ timeoutMs →
              ¬ Decides done (b.storage.answer name s k))
            ∧ n = timeoutMs / max intervalMs 1 + 1
            ∧ ∃ reason, result = .error (.timeout name reason)) := by
  refine ⟨waitUntil_eq_pollBy rfl _ _ _, ?_⟩
  rcases exists_isLeast_or_undecided b.storage name s { timeoutMs, intervalMs } done with
    ⟨k, hleast⟩ | hnone
  · obtain ⟨htime, hdecides⟩ := hleast.1
    refine ⟨_, _, makes_of_isLeast rfl hleast, Nat.succ_pos _,
      Nat.succ_le_succ ((Nat.le_div_iff_mul_le (interval_pos ⟨timeoutMs, intervalMs, false⟩)).2
        htime), .inl ⟨k, hleast, rfl, ?_⟩⟩
    cases hanswer : b.storage.answer name s k with
    | ok found => exact ⟨by rwa [hanswer] at hdecides, rfl⟩
    | error err => exact ⟨_, rfl, rfl, rfl⟩
  · exact ⟨_, _, makes_of_undecided rfl hnone, Nat.succ_pos _, Nat.le_refl _,
      .inr ⟨fun k htime hdecides => hnone k ⟨htime, hdecides⟩, rfl, _, rfl⟩⟩

end Waiter

end FailoverStorage

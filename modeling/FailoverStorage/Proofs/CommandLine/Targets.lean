import FailoverStorage.CommandLine.Run
import FailoverStorage.Proofs.Data.Except
import FailoverStorage.Proofs.Gateway.Action

/-!
# Commands on several endpoints

A command on several endpoints tries each of them in turn, and a failure neither stops nor reorders
what comes after it.

**What is tried.**  The entries that can be read name the targets (`targets`).  Each is operated on
once, in the state that those before it have left (`stateAfter`); `noted` is an operation that keeps
a list of what it was called for, which is how "once" is said.

**What is reported.**  The entry at a position fails with the error of reading it, or else with the
error of the operation in the state that the entries before it have left (`entryError?`).

**How the process ends.**  The first failure decides, by the kind of what it is at its root:
the phases around an error do not count (`exitCode_eq_root`).
-/

namespace FailoverStorage

/-! ## Exit statuses -/

/-- The phases around an error do not change its kind. -/
lemma Error.kind_root (e : Error) : e.root.kind = e.kind := by
  induction e with
  | context _ _ ih => exact ih
  | _ => rfl

lemma ErrorKind.exitCode_ne_zero (k : ErrorKind) : k.exitCode ≠ 0 := by
  cases k <;> decide

namespace CommandLine

/-- **The first failure decides the exit status**, whatever phases are around its error. -/
lemma exitCode_eq_root (r : Report) : r.exitCode
    = (r.failures.head?.map fun first => first.cause.root.kind.exitCode).getD 0 := by
  rw [Report.exitCode]
  cases r.failures with
  | nil => rfl
  | cons first rest => exact congrArg ErrorKind.exitCode first.cause.kind_root.symm

lemma exitCode_eq_zero_iff (r : Report) : r.exitCode = 0 ↔ r.failures = [] := by
  rw [Report.exitCode]
  cases r.failures with
  | nil => exact iff_of_true rfl rfl
  | cons first rest =>
      exact iff_of_false first.cause.kind.exitCode_ne_zero (List.cons_ne_nil _ _)

/-! ## Targets -/

variable {σ : Type} {p : Protocol}

/-- **The endpoints that entries name**; those that cannot be read name none. -/
def targets (p : Protocol) (ids : List String) : List p.Identity :=
  ids.filterMap fun id => (p.parseIdentity id).toOption

/-- **The state that an operation leaves** on one target after another. -/
def stateAfter (operation : p.Identity → Action σ String) (s : σ) (ids : List String) : σ :=
  (targets p ids).foldl (fun s id => (operation id s).2) s

/-- The error of a result that is one. -/
def error? {α : Type} : Except Error α → Option Error
  | .error cause => some cause
  | .ok _ => none

/-- **The error of an entry** that is tried in a state: that of reading it, or else that of the
operation. -/
def entryError? (operation : p.Identity → Action σ String) (s : σ) (id : String) : Option Error :=
  match p.parseIdentity id with
  | .error cause => some cause
  | .ok identity => error? (operation identity s).1

/-- What is reported of the entry at a position, if it fails in the state that the entries before it
have left. -/
def failureAt? (verb : String) (operation : p.Identity → Action σ String) (s : σ)
    (ids : List String) (entry : String × Nat) : Option Failure :=
  (entryError? operation (stateAfter operation s (ids.take entry.2)) entry.1).map fun cause =>
    { step := some ("failed to " ++ verb ++ " " ++ entry.1), cause }

/-- **An operation that notes for which endpoints it was called.** -/
def noted (operation : p.Identity → Action σ String) (id : p.Identity) :
    Action (σ × List p.Identity) String := fun (s, ids) =>
  let (result, t) := operation id s
  (result, (t, ids ++ [id]))

/-! ## One entry -/

/-- Reads an entry and operates on what it names. -/
def attempt (operation : p.Identity → Action σ String) (id : String) : Action σ String := do
  operation (← Action.ofExcept (p.parseIdentity id))

variable {operation : p.Identity → Action σ String} {verb id : String} {rest : List String} {s : σ}

lemma attempt_of_error {cause : Error} (h : p.parseIdentity id = .error cause) :
    attempt operation id s = (.error cause, s) := by
  rw [attempt, h]
  rfl

lemma attempt_of_ok {identity : p.Identity} (h : p.parseIdentity id = .ok identity) :
    attempt operation id s = operation identity s := by
  rw [attempt, h]
  rfl

lemma targets_cons_of_error {cause : Error} (h : p.parseIdentity id = .error cause) :
    targets p (id :: rest) = targets p rest := by
  rw [targets, List.filterMap_cons, h]
  rfl

lemma targets_cons_of_ok {identity : p.Identity} (h : p.parseIdentity id = .ok identity) :
    targets p (id :: rest) = identity :: targets p rest := by
  rw [targets, List.filterMap_cons, h]
  rfl

/-- An entry fails if the attempt does. -/
lemma entryError?_eq : entryError? operation s id = error? (attempt operation id s).1 := by
  rw [entryError?]
  cases h : p.parseIdentity id with
  | error cause => rw [attempt_of_error h, error?]
  | ok identity => rw [attempt_of_ok h]

/-! ## One entry after another -/

lemma forEachTarget_cons (verb : String) (operation : p.Identity → Action σ String) (id : String)
    (rest : List String) (s : σ) : forEachTarget p verb operation (id :: rest) s
      = (Report.ofResult (some ("failed to " ++ verb ++ " " ++ id)) (attempt operation id s).1
          ++ (forEachTarget p verb operation rest (attempt operation id s).2).1,
        (forEachTarget p verb operation rest (attempt operation id s).2).2) := rfl

/-- The entries after the first one start where it has ended, whether it fails or not. -/
lemma stateAfter_cons : stateAfter operation s (id :: rest)
    = stateAfter operation (attempt operation id s).2 rest := by
  cases h : p.parseIdentity id with
  | error cause => rw [stateAfter, targets_cons_of_error h, attempt_of_error h, stateAfter]
  | ok identity =>
      rw [stateAfter, targets_cons_of_ok h, attempt_of_ok h, List.foldl_cons, stateAfter]

lemma failures_ofResult (step : Option String) (result : Except Error String) :
    (Report.ofResult step result).failures
      = ((error? result).map fun cause => ({ step, cause } : Failure)).toList := by
  cases result <;> rfl

lemma failureAt?_zero : failureAt? verb operation s (id :: rest) (id, 0)
    = (error? (attempt operation id s).1).map fun cause =>
        { step := some ("failed to " ++ verb ++ " " ++ id), cause } := by
  rw [← entryError?_eq]
  rfl

lemma failureAt?_succ (entry : String) (k : Nat) :
    failureAt? verb operation s (id :: rest) (entry, k + 1)
      = failureAt? verb operation (attempt operation id s).2 rest (entry, k) := by
  rw [failureAt?, List.take_succ_cons, stateAfter_cons, failureAt?]

/-- The first failures are those of the first entry; the others are counted from there. -/
lemma filterMap_failureAt?_cons :
    (id :: rest).zipIdx.filterMap (failureAt? verb operation s (id :: rest))
      = (failureAt? verb operation s (id :: rest) (id, 0)).toList
        ++ rest.zipIdx.filterMap (failureAt? verb operation (attempt operation id s).2 rest) := by
  have hrest : (rest.zipIdx 1).filterMap (failureAt? verb operation s (id :: rest))
      = rest.zipIdx.filterMap (failureAt? verb operation (attempt operation id s).2 rest) := by
    rw [List.zipIdx_succ, List.filterMap_map]
    exact congrArg (fun f => rest.zipIdx.filterMap f)
      (funext fun entry => failureAt?_succ entry.1 entry.2)
  rw [List.zipIdx_cons, List.filterMap_cons, hrest]
  cases failureAt? verb operation s (id :: rest) (id, 0) <;> rfl

/-! ## All entries -/

lemma state_forEachTarget (verb : String) (operation : p.Identity → Action σ String)
    (ids : List String) (s : σ) :
    (forEachTarget p verb operation ids s).2 = stateAfter operation s ids := by
  induction ids generalizing s with
  | nil => rfl
  | cons id rest ih => rw [forEachTarget_cons, stateAfter_cons, ih]

lemma failures_forEachTarget (verb : String) (operation : p.Identity → Action σ String)
    (ids : List String) (s : σ) :
    (forEachTarget p verb operation ids s).1.failures
      = ids.zipIdx.filterMap (failureAt? verb operation s ids) := by
  induction ids generalizing s with
  | nil => rfl
  | cons id rest ih =>
      rw [forEachTarget_cons, filterMap_failureAt?_cons, failureAt?_zero, ← failures_ofResult, ← ih]
      rfl

/-- Noting for which endpoints an operation is called changes nothing else. -/
lemma forEachTarget_noted (verb : String) (operation : p.Identity → Action σ String)
    (ids : List String) (s : σ) (seen : List p.Identity) :
    forEachTarget p verb (noted operation) ids (s, seen)
      = ((forEachTarget p verb operation ids s).1,
        ((forEachTarget p verb operation ids s).2, seen ++ targets p ids)) := by
  induction ids generalizing s seen with
  | nil => exact Prod.ext rfl (Prod.ext rfl (List.append_nil seen).symm)
  | cons id rest ih =>
      rw [forEachTarget_cons, forEachTarget_cons]
      cases h : p.parseIdentity id with
      | error cause => rw [attempt_of_error h, attempt_of_error h, ih, targets_cons_of_error h]
      | ok identity =>
          have hnoted : noted operation identity (s, seen) = ((operation identity s).1,
              ((operation identity s).2, seen ++ [identity])) := rfl
          rw [attempt_of_ok h, attempt_of_ok h, hnoted, ih, targets_cons_of_ok h,
            List.append_assoc, List.singleton_append]

/-- **A command on several endpoints tries every one of them.**  It leaves the state of operating on
one target after another, whichever of them fail; the operation is called for each target once and
in order; each entry that cannot be read or operated on is reported once and in order.  The exit
status is 0 if nothing is reported, and else tells the kind of the first error, whatever phases are
around it. -/
theorem forEachTarget_tries_all (p : Protocol) (verb : String)
    (operation : p.Identity → Action σ String) (ids : List String) (s : σ) :
    let run := forEachTarget p verb operation ids s
    run.2 = stateAfter operation s ids
      ∧ forEachTarget p verb (noted operation) ids (s, []) = (run.1, (run.2, targets p ids))
      ∧ run.1.failures = ids.zipIdx.filterMap (failureAt? verb operation s ids)
      ∧ (run.1.exitCode = 0 ↔ run.1.failures = [])
      ∧ run.1.exitCode
        = (run.1.failures.head?.map fun first => first.cause.root.kind.exitCode).getD 0 := by
  exact ⟨state_forEachTarget verb operation ids s, forEachTarget_noted verb operation ids s [],
    failures_forEachTarget verb operation ids s, exitCode_eq_zero_iff _, exitCode_eq_root _⟩

/-- Notes each export that is to be stopped; one of them is busy. -/
def stopping : Protocol.Identity .nfs → Action (List String) String :=
  fun (name : String) stopped =>
    (if name = "busy" then .error (.context "failed to detach" (.conflict "in use")) else .ok "",
      stopped ++ [name])

/-- The entry that cannot be read comes second, so the exit status is that of a conflict. -/
example : ((forEachTarget .nfs "stop" stopping ["busy", "1bad", "idle", "busy"] []).2,
    (forEachTarget .nfs "stop" stopping ["busy", "1bad", "idle", "busy"] []).1.exitCode)
      = (["busy", "idle", "busy"], 3) := by
  decide

end CommandLine

end FailoverStorage

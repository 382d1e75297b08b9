import FailoverStorage.Gateway.Backend
import FailoverStorage.Text.Duration

/-!
# Waiting for a condition

Promotion and demotion take time.  A waiter polls the placements of a resource at once and then at
each interval until a condition holds or the time is up.  Time passes only between polls, so the
timing alone decides how many polls there are: `polls`, at least one and never without bound.
-/

namespace FailoverStorage

/-- **How long and how often to poll.** -/
structure Waiter where
  timeoutMs : Nat
  intervalMs : Nat
  /-- Whether waiting was called off for good. -/
  cancelled : Bool := false

namespace Waiter

/-! ## Conditions -/

/-- The resource is promoted on some node. -/
def anyInUse (placements : List Placement) : Bool := placements.any (·.isInUse)

/-- The resource is promoted nowhere. -/
def noneInUse (placements : List Placement) : Bool := !anyInUse placements

/-! ## Timing -/

/-- Refuses timings under which nothing would ever be waited for. -/
def check (w : Waiter) : Except Error Unit :=
  if w.timeoutMs = 0 then .error (.configuration "wait timeout must be non-zero")
  else if w.intervalMs = 0 then .error (.configuration "poll interval must be non-zero")
  else .ok ()

/-- The polls that fit the time, the one at the start and the one at the deadline included; polls
are at least a millisecond apart. -/
def polls (w : Waiter) : Nat := w.timeoutMs / max w.intervalMs 1 + 1

/-! ## Polling -/

variable {σ : Type}

/-- Polls at most `count` times. -/
def poll (read : Action σ (List Placement)) (done : List Placement → Bool) (late : Error) :
    (count : Nat) → Action σ Unit
  | 0 => throw late
  | count + 1 => do
    let placements ← read
    if done placements then return () else poll read done late count

/-- **Polls a resource until a condition holds.**  A failing poll ends the wait. -/
def waitUntil (w : Waiter) (storage : Storage σ) (name : String)
    (done : List Placement → Bool) : Action σ Unit :=
  if w.cancelled then throw (.timeout name "wait cancelled")
  else poll ((storage.placements name).inPhase ("failed to poll resource " ++ name)) done
    (.timeout name ("condition not reached within " ++ Text.duration w.timeoutMs)) w.polls

end Waiter

end FailoverStorage

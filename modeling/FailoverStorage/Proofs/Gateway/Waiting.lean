import FailoverStorage.Proofs.Gateway.Reachable

/-!
# Waiting for a transition

A promotion or demotion shows after a number of polls.  A patience that lasts for so many intervals
sees it through: one poll at the start, and one after each interval
(`Waiter.Endures.lt_polls`).  So a wait for it succeeds, and leaves the resource as the transition
left it (`Operation.exists_await_of_transition`); nothing else changes.  A shorter patience, or one
while transitions stand still, runs out (`Operation.exists_await_of_unseen`), unless what is waited
for was there before.
-/

namespace FailoverStorage

open FailoverStorage.Action

/-- **A patience lasts for a number of intervals.** -/
structure Waiter.Endures (w : Waiter) (intervals : Nat) : Prop where
  cancelled : w.cancelled = false
  time : intervals * max w.intervalMs 1 ≤ w.timeoutMs

/-- There is a poll after each interval, and one at the start. -/
lemma Waiter.Endures.lt_polls {w : Waiter} {intervals : Nat} (h : w.Endures intervals) :
    intervals < w.polls := by
  have hpositive : 0 < max w.intervalMs 1 :=
    Nat.lt_of_lt_of_le Nat.zero_lt_one (Nat.le_max_right _ _)
  have hle : intervals ≤ w.timeoutMs / max w.intervalMs 1 :=
    (Nat.le_div_iff_mul_le hpositive).2 h.time
  rw [Waiter.polls]
  omega

/-- A patience that does not last has no poll after the transition. -/
lemma Waiter.polls_le_of_not_endures {w : Waiter} {intervals : Nat} (hw : w.cancelled = false)
    (h : ¬ w.Endures intervals) : w.polls ≤ intervals := by
  have hpositive : 0 < max w.intervalMs 1 :=
    Nat.lt_of_lt_of_le Nat.zero_lt_one (Nat.le_max_right _ _)
  have hshort : w.timeoutMs < intervals * max w.intervalMs 1 :=
    Nat.lt_of_not_le fun htime => h ⟨hw, htime⟩
  have hlt : w.timeoutMs / max w.intervalMs 1 < intervals :=
    (Nat.div_lt_iff_lt_mul hpositive).2 hshort
  rw [Waiter.polls]
  omega

namespace Cluster

/-- A resource after a transition. -/
def switched (promote : Bool) (r : ClusterResource) : ClusterResource :=
  { r with transition := none, placements := settle promote r.placements }

lemma advance_of_pollsLeft_zero {r : ClusterResource} {promote : Bool}
    (h : r.transition = some { promote, pollsLeft := 0 }) : advance r = switched promote r := by
  simp only [advance, h, switched]

lemma advance_of_pollsLeft_succ {r : ClusterResource} {promote : Bool} {n : Nat}
    (h : r.transition = some { promote, pollsLeft := n + 1 }) :
    advance r = { r with transition := some { promote, pollsLeft := n } } := by
  simp only [advance, h]

/-- **Nothing but the resource of a name is changed**, and reads go on to succeed. -/
structure Became (name : String) (r : ClusterResource) (s t : Cluster) : Prop where
  outside : SameOutside none name s t
  failingPolls : t.failingPolls = s.failingPolls
  resource : t.resources.find? name = some r

lemma became_changeResource {name : String} {s : Cluster} {r : ClusterResource}
    (hr : s.resources.find? name = some r) (f : ClusterResource → ClusterResource) :
    Became name (f r) s (s.changeResource name f) where
  outside := .changeResource none name s f
  failingPolls := rfl
  resource := by rw [find?_changeResource, if_pos rfl, hr, Option.map_some]

lemma Became.trans {name : String} {r r' : ClusterResource} {s t u : Cluster}
    (h : Became name r s t) (h' : Became name r' t u) : Became name r' s u :=
  ⟨h.outside.trans h'.outside, h'.failingPolls.trans h.failingPolls, h'.resource⟩

/-- A read while a transition has polls left takes one off and shows the placements as they were. -/
lemma exists_placements_of_pollsLeft_succ {name : String} {promote : Bool} {n : Nat} {s : Cluster}
    {r : ClusterResource} (hstalled : s.stalled = false) (hpolls : s.failingPolls = 0)
    (hr : s.resources.find? name = some r)
    (htransition : r.transition = some { promote, pollsLeft := n + 1 }) :
    ∃ t, placements name s = (.ok r.placements, t)
      ∧ Became name { r with transition := some { promote, pollsLeft := n } } s t := by
  have hread := placements_of_find?_eq_some hstalled hpolls hr
  have hbecame := became_changeResource hr advance
  rw [advance_of_pollsLeft_succ htransition] at hread hbecame
  exact ⟨_, hread, hbecame⟩

end Cluster

namespace Operation

/-- **Enough polls see a transition through.**  The condition must not hold before, so that no poll
ends the wait too early. -/
lemma exists_poll_of_transition {name : String} (phase : String) {done : List Placement → Bool}
    (late : Error) {promote : Bool} {pollsLeft count : Nat} {s : Cluster} {r : ClusterResource}
    (hstalled : s.stalled = false) (hpolls : s.failingPolls = 0)
    (hr : s.resources.find? name = some r)
    (htransition : r.transition = some { promote, pollsLeft })
    (hbefore : done r.placements = false)
    (hafter : done (Cluster.switched promote r).placements = true) (hcount : pollsLeft < count) :
    ∃ t, Waiter.poll ((Cluster.placements name).inPhase phase) done late count s = (.ok (), t)
      ∧ Cluster.Became name (Cluster.switched promote r) s t := by
  induction pollsLeft generalizing s r count with
  | zero =>
      obtain ⟨count, rfl⟩ := Nat.exists_eq_succ_of_ne_zero (Nat.ne_of_gt hcount)
      have hadvance := Cluster.advance_of_pollsLeft_zero htransition
      have hread := inPhase_apply_ok phase (Cluster.placements_of_find?_eq_some hstalled hpolls hr)
      have hbecame := Cluster.became_changeResource hr Cluster.advance
      rw [hadvance] at hread hbecame
      refine ⟨_, ?_, hbecame⟩
      rw [Waiter.poll, bind_apply_ok hread, if_pos hafter]
      rfl
  | succ n ih =>
      obtain ⟨count, rfl⟩ := Nat.exists_eq_succ_of_ne_zero (Nat.ne_of_gt (Nat.zero_lt_of_lt hcount))
      obtain ⟨u, hread, hbecame⟩ :=
        Cluster.exists_placements_of_pollsLeft_succ hstalled hpolls hr htransition
      have hread := inPhase_apply_ok phase hread
      -- the placements are as they were, so this poll does not end the wait
      obtain ⟨t, hrun, ht⟩ := ih (hbecame.outside.stalled.trans hstalled)
        (hbecame.failingPolls.trans hpolls) hbecame.resource rfl hbefore hafter
        (Nat.lt_of_succ_lt_succ hcount)
      refine ⟨t, ?_, hbecame.trans ht⟩
      rw [Waiter.poll, bind_apply_ok hread, if_neg (Bool.eq_false_iff.1 hbefore)]
      exact hrun

/-- **A wait for a transition succeeds** if the patience lasts for its polls, and leaves the
resource as the transition does. -/
theorem exists_await_of_transition {w : Waiter} {name : String} {done : List Placement → Bool}
    {promote : Bool} {pollsLeft : Nat} {s : Cluster} {r : ClusterResource}
    (hw : w.Endures pollsLeft) (hstalled : s.stalled = false) (hpolls : s.failingPolls = 0)
    (hr : s.resources.find? name = some r)
    (htransition : r.transition = some { promote, pollsLeft })
    (hbefore : done r.placements = false)
    (hafter : done (Cluster.switched promote r).placements = true) (goal : String) :
    ∃ t, (gateway w).await name goal done s = (.ok (), t)
      ∧ Cluster.Became name (Cluster.switched promote r) s t := by
  have hwaiting : (gateway w).waiter.cancelled = false := hw.cancelled
  obtain ⟨t, hrun, ht⟩ := exists_poll_of_transition ("failed to poll resource " ++ name)
    (.timeout name ("condition not reached within " ++ Text.duration w.timeoutMs))
    hstalled hpolls hr htransition hbefore hafter hw.lt_polls
  refine ⟨t, inPhase_apply_ok _ ?_, ht⟩
  rw [Waiter.waitUntil, hwaiting]
  exact hrun

/-! ## Waiting in vain -/

/-- **While transitions stand still, polling is in vain.** -/
lemma poll_of_stalled {name : String} (phase : String) {done : List Placement → Bool}
    (late : Error) {s : Cluster} {r : ClusterResource} (hstalled : s.stalled = true)
    (hpolls : s.failingPolls = 0) (hr : s.resources.find? name = some r)
    (hbefore : done r.placements = false) (count : Nat) :
    Waiter.poll ((Cluster.placements name).inPhase phase) done late count s
      = (.error late, s) := by
  have hread := inPhase_apply_ok phase (Cluster.placements_of_stalled hstalled hpolls hr)
  induction count with
  | zero => rfl
  | succ count ih =>
      rw [Waiter.poll, bind_apply_ok hread, hbefore]
      exact ih

/-- **Too few polls do not see a transition.** -/
lemma exists_poll_of_short {name : String} (phase : String) {done : List Placement → Bool}
    (late : Error) {promote : Bool} {pollsLeft count : Nat} {s : Cluster} {r : ClusterResource}
    (hstalled : s.stalled = false) (hpolls : s.failingPolls = 0)
    (hr : s.resources.find? name = some r)
    (htransition : r.transition = some { promote, pollsLeft })
    (hbefore : done r.placements = false) (hcount : count ≤ pollsLeft) :
    ∃ t, Waiter.poll ((Cluster.placements name).inPhase phase) done late count s
      = (.error late, t) := by
  induction count generalizing pollsLeft s r with
  | zero => exact ⟨s, rfl⟩
  | succ count ih =>
      obtain ⟨n, rfl⟩ := Nat.exists_eq_succ_of_ne_zero (Nat.ne_of_gt (Nat.zero_lt_of_lt hcount))
      obtain ⟨u, hread, hbecame⟩ :=
        Cluster.exists_placements_of_pollsLeft_succ hstalled hpolls hr htransition
      have hread := inPhase_apply_ok phase hread
      obtain ⟨t, hrun⟩ := ih (hbecame.outside.stalled.trans hstalled)
        (hbecame.failingPolls.trans hpolls) hbecame.resource rfl hbefore
        (Nat.le_of_succ_le_succ hcount)
      refine ⟨t, ?_⟩
      rw [Waiter.poll, bind_apply_ok hread, if_neg (Bool.eq_false_iff.1 hbefore)]
      exact hrun

/-- **A wait that does not see a transition runs out**: transitions stand still, or the patience
does not last for the polls. -/
theorem exists_await_of_unseen {w : Waiter} {name : String} {done : List Placement → Bool}
    {promote : Bool} {pollsLeft : Nat} {s : Cluster} {r : ClusterResource}
    (hw : w.cancelled = false) (hunseen : s.stalled = true ∨ ¬ w.Endures pollsLeft)
    (hpolls : s.failingPolls = 0) (hr : s.resources.find? name = some r)
    (htransition : r.transition = some { promote, pollsLeft })
    (hbefore : done r.placements = false) (goal : String) :
    ∃ err t, (gateway w).await name goal done s = (.error err, t) ∧ err.kind = .timeout := by
  set late : Error :=
    .timeout name ("condition not reached within " ++ Text.duration w.timeoutMs) with hlate
  obtain ⟨t, hrun⟩ : ∃ t, Waiter.poll
      ((Cluster.placements name).inPhase ("failed to poll resource " ++ name)) done late w.polls s
        = (.error late, t) := by
    cases hstalled : s.stalled with
    | true => exact ⟨s, poll_of_stalled _ _ hstalled hpolls hr hbefore _⟩
    | false =>
        have hshort := hunseen.resolve_left (by rw [hstalled]; exact Bool.false_ne_true)
        exact exists_poll_of_short _ _ hstalled hpolls hr htransition hbefore
          (Waiter.polls_le_of_not_endures hw hshort)
  have hwait : w.waitUntil Cluster.backend.storage name done s = (.error late, t) := by
    rw [Waiter.waitUntil, hw]
    exact hrun
  refine ⟨.context ("failed to wait for " ++ name ++ " to " ++ goal) late, t, ?_, hlate ▸ rfl⟩
  show Action.inPhase _ (w.waitUntil Cluster.backend.storage name done) s = _
  rw [Action.inPhase, hwait]
  rfl

end Operation

end FailoverStorage

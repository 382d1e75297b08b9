import FailoverStorage.Proofs.Gateway.Legibility
import FailoverStorage.Proofs.Gateway.Resources

/-!
# Starting and stopping

Starting an endpoint attaches its configuration and waits for its resource to be in use, stopping
detaches it and waits for the resource to be in use nowhere.  Either begins a transition of its own,
whatever was under way before, and either is told apart by two questions: was what is waited for
there already, and if not, does the patience last for the polls of the transition while nothing
holds it up?  `Cluster.Interrupted.start_stop` says that these two decide how it ends, in every run.

That the transition brings about what is waited for takes an invariant: the resource is listed by
the configuration, and its nodes answer (`ClusterResource.Answers`).
-/

namespace FailoverStorage

open FailoverStorage.Action

/-- What is in use nowhere and not set to run is stopped, if it is placed and its nodes answer. -/
lemma Status.serviceState_eq_stopped {ps : List Placement} (hplaced : ps ≠ [])
    (hanswers : ∀ p ∈ ps, p.inUse.isSome = true) (hfree : ps.any (·.isInUse) = false) :
    serviceState false ps = .stopped := by
  have hreports : ps.any (·.inUse.isNone) = false := by
    refine List.any_eq_false.2 fun p hp => ?_
    rw [Option.isNone_eq_false_iff.2 (hanswers p hp)]
    exact Bool.false_ne_true
  have hsome : ps.isEmpty = false := by simpa using hplaced
  simp [serviceState, hfree, hreports, hsome]

namespace Operation

variable {p : Protocol} {id : p.Identity} {config : PromoterConfig} {attached promote : Bool}
  {r : ClusterResource} {c s : Cluster} {e : Endpoint p} {w : Waiter}

/-! ## Waiting -/

/-- **A wait sees what was there before, or a transition that it lasts for.** -/
lemma exists_await_of_seen {name : String} {done : List Placement → Bool} {pollsLeft : Nat}
    (hw : w.cancelled = false)
    (hseen : done r.placements = true ∨ s.stalled = false ∧ w.Endures pollsLeft)
    (hpolls : s.failingPolls = 0)
    (hr : s.resources.find? name
      = some { r with transition := some { promote, pollsLeft } })
    (hafter : done (Cluster.settle promote r.placements) = true) (goal : String) :
    ∃ t transition ps, (gateway w).await name goal done s = (.ok (), t)
      ∧ Cluster.Became name { r with transition, placements := ps } s t
      ∧ (ps = r.placements ∨ ps = Cluster.settle promote r.placements) ∧ done ps = true := by
  cases hbefore : done r.placements with
  | false =>
      obtain ⟨hstalled, hendures⟩ :=
        hseen.resolve_left (by rw [hbefore]; exact Bool.false_ne_true)
      obtain ⟨t, hawait, hbecame⟩ :=
        exists_await_of_transition hendures hstalled hpolls hr rfl hbefore hafter goal
      exact ⟨t, none, _, hawait, hbecame, .inr rfl, hafter⟩
  | true =>
      -- the first poll ends the wait
      cases hstalled : s.stalled with
      | true =>
          exact ⟨s, _, _, await_eq_ok w hw (Cluster.placements_of_stalled hstalled hpolls hr)
            hbefore goal, ⟨.refl _ _ _, rfl, hr⟩, .inl rfl, hbefore⟩
      | false =>
          have hread := Cluster.placements_of_find?_eq_some hstalled hpolls hr
          have hbecame := Cluster.became_changeResource hr Cluster.advance
          cases pollsLeft with
          | zero =>
              exact ⟨_, none, _, await_eq_ok w hw hread hafter goal, hbecame, .inr rfl, hafter⟩
          | succ n =>
              exact ⟨_, _, _, await_eq_ok w hw hread hbefore goal, hbecame, .inl rfl, hbefore⟩

/-! ## Reading again -/

/-- An endpoint is read again as it was but for its status, if its resource is where it was but for
a transition. -/
lemma exists_reported_of_installed (h : Installed id config attached r c)
    (he : reported id c = .ok (some e)) {transition : Option Transition} {ps : List Placement}
    {attached' : Bool} {t : Cluster}
    (h' : Installed id config attached' { r with transition, placements := ps } t) :
    ∃ e', reported id t = .ok (some e') ∧ e'.agreesWith e = true
      ∧ e'.status.service = Status.serviceState attached' ps := by
  have hdecoded : decoded id config t = decoded id config c := by
    simp only [decoded, Cluster.deployment, h.resource, h'.resource]
  rw [h.reported_eq, reconstruct_storedAs] at he
  rw [h'.reported_eq, reconstruct_storedAs, hdecoded]
  cases hread : decoded id config c with
  | error err =>
      rw [hread] at he
      cases he
  | ok b =>
      rw [hread] at he
      cases he
      refine ⟨_, rfl, ?_, ?_⟩
      · rw [Endpoint.agreesWith, decide_eq_true_eq]
      · simp only [Cluster.deployment, h'.resource]
        rfl

/-! ## How it ends -/

/-- **How starting or stopping an endpoint ends**: with the endpoint as it was, its service in a
state; or by running out of patience. -/
structure EndsAs (e : Endpoint p) (service : ServiceState) (succeeds : Prop)
    (result : Except Error (Option (Endpoint p))) : Prop where
  success : succeeds → ∃ e', result = .ok (some e') ∧ e'.status.service = service
    ∧ e'.agreesWith e = true
  timeout : ¬ succeeds → ∃ err, result = .error err ∧ err.kind = .timeout

lemma EndsAs.congr {service : ServiceState} {succeeds succeeds' : Prop}
    {result : Except Error (Option (Endpoint p))} (h : EndsAs e service succeeds result)
    (hiff : succeeds ↔ succeeds') : EndsAs e service succeeds' result :=
  ⟨fun hsucceeds => h.success (hiff.2 hsucceeds), fun hnot => h.timeout (mt hiff.1 hnot)⟩

/-- **Starting and stopping** are one argument: the transition was begun, and is waited for. -/
lemma endsAs_of_begun {attached' : Bool} {done : List Placement → Bool} {pollsLeft : Nat}
    {service : ServiceState} (hw : w.cancelled = false) (h : Installed id config attached r c)
    (he : reported id c = .ok (some e)) (hpolls : s.failingPolls = 0)
    (hbegun : Installed id config attached'
      { r with transition := some { promote, pollsLeft } } s)
    (hafter : done (Cluster.settle promote r.placements) = true)
    (hservice : ∀ ps, (ps = r.placements ∨ ps = Cluster.settle promote r.placements) →
      done ps = true → Status.serviceState attached' ps = service) (goal : String) :
    EndsAs e service (done r.placements = true ∨ s.stalled = false ∧ w.Endures pollsLeft)
      ((do
        (gateway w).await (Protocol.resourceName id) goal done
        (gateway w).get id) s).1 := by
  refine ⟨fun hseen => ?_, fun hunseen => ?_⟩
  · obtain ⟨t, transition, ps, hawait, hbecame, hps, hdone⟩ :=
      exists_await_of_seen hw hseen hpolls hbegun.resource hafter goal
    have htext := (hbecame.outside.find?_configs _).trans hbegun.text
    obtain ⟨e', hreported, hagrees, hstate⟩ := exists_reported_of_installed h he
      ⟨⟨hbegun.belongs, htext⟩, hbegun.lists, hbecame.resource⟩
    refine ⟨e', ?_, hstate.trans (hservice ps hps hdone), hagrees⟩
    rw [bind_apply_ok hawait, get_eq_reported, hreported]
  · obtain ⟨hbefore, hheld⟩ := not_or.1 hunseen
    have hheld' : s.stalled = true ∨ ¬ w.Endures pollsLeft := by
      cases hstalled : s.stalled with
      | true => exact .inl rfl
      | false => exact .inr fun hendures => hheld ⟨hstalled, hendures⟩
    obtain ⟨err, t, hawait, hkind⟩ := exists_await_of_unseen hw hheld' hpolls hbegun.resource rfl
      (Bool.eq_false_iff.2 hbefore) goal
    exact ⟨err, by rw [bind_apply_error hawait], hkind⟩

end Operation

/-! ## Every run -/

namespace Cluster

open Operation

variable {allowed : Protocol → Prop} {c : Cluster} {p : Protocol} {id : p.Identity}
  {e : Endpoint p} {r : ClusterResource}

/-- What is reported in a run is installed, if its resource exists. -/
lemma Interrupted.exists_installed (hc : Interrupted allowed c)
    (he : reported id c = .ok (some e))
    (hr : c.resources.find? (Protocol.resourceName id) = some r) :
    ∃ config attached, Installed id config attached r c := by
  have htexts : OwnTextsWith
      (fun _ config => ∃ name, config.resources.contains name = true) c :=
    hc.ownTextsWith fun _ e _ _ hconfig => ⟨_, PromoterConfig.contains_of_toPromoter hconfig⟩
  cases htext : c.configs.find? (PromoterConfig.pathOf (Protocol.configId id)) with
  | none =>
      rw [reported_of_find?_eq_none htext] at he
      cases he
  | some text =>
      obtain ⟨config, hbelongs, ⟨name, hlists⟩, hcontent⟩ := htexts.ownTextWith id text htext
      refine ⟨config, text.attached, ⟨hbelongs, ?_⟩, hbelongs.manages name hlists ▸ hlists, hr⟩
      rw [htext, ← hcontent]

/-- **When starting and stopping succeed.**  In every run, however it was interrupted, if an
endpoint can be read and its resource is placed, starting it ends with the endpoint as it was and
its service started if the resource was in use already, or if transitions go on and the patience
lasts for their polls; otherwise it runs out of patience.  Stopping ends with the service stopped if
the resource was in use nowhere, or under the same condition. -/
theorem Interrupted.start_stop (hc : Interrupted allowed c) {w : Waiter} (hw : w.cancelled = false)
    (hget : ((gateway w).get id c).1 = .ok (some e))
    (hr : c.resources.find? (Protocol.resourceName id) = some r) (hplaced : r.placements ≠ [])
    (hpolls : c.failingPolls = 0) :
    EndsAs e .started
        (r.placements.any (·.isInUse) = true
          ∨ c.stalled = false ∧ c.transitionPolls * max w.intervalMs 1 ≤ w.timeoutMs)
        ((gateway w).start id c).1
      ∧ EndsAs e .stopped
        (r.placements.any (·.isInUse) = false
          ∨ c.stalled = false ∧ c.transitionPolls * max w.intervalMs 1 ≤ w.timeoutMs)
        ((gateway w).stop id c).1 := by
  have he : reported id c = .ok (some e) := by rwa [get_eq_reported] at hget
  obtain ⟨config, attached, hinstalled⟩ := hc.exists_installed he hr
  have hanswers : r.Answers := hc.all ClusterResource.lasts_answers _ _ hr
  have hfound := hinstalled.found_eq
  have hendures : ∀ n, w.Endures n ↔ n * max w.intervalMs 1 ≤ w.timeoutMs :=
    fun n => ⟨fun h => h.time, fun h => ⟨hw, h⟩⟩
  constructor
  · rw [start_apply w hfound]
    have hafter := any_isInUse_settle_true (hanswers.any_disk hplaced)
    have hpolls' : (attach config c).2.failingPolls = 0 := hpolls
    refine (endsAs_of_begun hw hinstalled he hpolls' hinstalled.attach hafter
      (fun ps _ huse => if_pos huse) "start").congr ?_
    rw [hendures]
    rfl
  · obtain ⟨t, hdetach, hbegun, hstalled, hfailing, -⟩ := hinstalled.exists_detach
    rw [stop_apply w hfound hdetach]
    have hafter : Waiter.noneInUse (settle false r.placements) = true := by
      rw [Waiter.noneInUse, Waiter.anyInUse, any_isInUse_settle_false]
      rfl
    refine (endsAs_of_begun hw hinstalled he (hfailing.trans hpolls) hbegun hafter
      (fun ps hps hfree => ?_) "stop").congr ?_
    · refine Status.serviceState_eq_stopped ?_ (fun q hq => ?_) (Bool.not_eq_true' _ ▸ hfree)
      · rcases hps with rfl | rfl
        · exact hplaced
        · exact fun hnil => hplaced (settle_eq_nil_iff.1 hnil)
      · rcases hps with rfl | rfl
        · exact (hanswers q hq).2
        · exact (hanswers.settle false q hq).2
    · rw [hendures, hstalled, Waiter.noneInUse, Bool.not_eq_true']
      rfl

/-- Holding transitions up leaves everything else. -/
lemma exists_stalled {name : String} (hc : Reachable allowed c) (he : reported id c = .ok (some e))
    (hr : c.resources.find? name = some r) (hpolls : c.failingPolls = 0) :
    ∃ s, s = { c with stalled := true } ∧ Reachable allowed s ∧ reported id s = .ok (some e)
      ∧ s.resources.find? name = some r ∧ s.failingPolls = 0 ∧ s.stalled = true :=
  ⟨_, rfl, hc.stall true, he, hr, hpolls, rfl⟩

/-- A stopped subsystem where transitions stand still. -/
def stalledCluster : Cluster := { stoppedCluster with stalled := true }

/-- While transitions stand still, the subsystem cannot be started; stopping it again succeeds. -/
theorem start_stop_stalledCluster : ∃ e err e',
    ((gateway halfSecond).get dataNqn stalledCluster).1 = .ok (some e)
      ∧ ((gateway halfSecond).start dataNqn stalledCluster).1 = .error err ∧ err.kind = .timeout
      ∧ ((gateway halfSecond).stop dataNqn stalledCluster).1 = .ok (some e')
      ∧ e'.status.service = .stopped ∧ e'.agreesWith e = true := by
  obtain ⟨e, he, -⟩ := exists_reported_stoppedCluster
  obtain ⟨-, config, r, -, hstands, -, hplaced, hfree⟩ := stands_stoppedCluster
  have hreachable : Reachable (fun _ => True) stoppedCluster := reachable_stoppedCluster trivial
  obtain ⟨c, hc, hrun, he, hr, hpolls, hstalled⟩ :=
    exists_stalled hreachable he hstands.resource hstands.failingPolls
  rw [stalledCluster, ← hc]
  have hget : ((gateway halfSecond).get dataNqn c).1 = .ok (some e) := by
    rw [get_eq_reported, he]
  obtain ⟨hstart, hstop⟩ := hrun.interrupted.start_stop rfl hget hr hplaced hpolls
  obtain ⟨err, herr, hkind⟩ := hstart.timeout (by rw [hfree, hstalled]; simp)
  obtain ⟨e', he', hservice, hagrees⟩ := hstop.success (.inl hfree)
  exact ⟨e, err, e', hget, herr, hkind, he', hservice, hagrees⟩

end Cluster

end FailoverStorage

import FailoverStorage.Proofs.Cluster.Ensuring
import FailoverStorage.Proofs.Gateway.Interruption

/-!
# Deleting again

Deleting an endpoint removes its configuration first and its resource last, and in between it waits
for the resource to be in use nowhere.  If the wait ends too early, no configuration is left that
could be asked to let go of the resource.  That nothing is stuck then is an invariant
(`Cluster.Releasable`): a resource without a configuration is in use nowhere, or is about to be
demoted.  Removing a configuration begins the demotion, because the configuration of an endpoint
lists its resource; and nothing promotes a resource but a configuration that stays.

So on a cluster that serves one protocol, deleting succeeds as soon as nothing is held up, whatever
was interrupted before, and once it has succeeded it has nothing left to do
(`Cluster.Interrupted.delete_converges`).
-/

namespace FailoverStorage

open FailoverStorage.Action

/-! ## Resources that yield -/

namespace ClusterResource

variable {r : ClusterResource} {polls : Nat} {gone : Prop}

/-- **A resource yields** if it is in use nowhere and will not be, or if it is about to be
demoted. -/
def Yields (r : ClusterResource) : Prop :=
  (r.transition = none ∧ r.placements.any (·.isInUse) = false)
    ∨ ∃ pollsLeft, r.transition = some { promote := false, pollsLeft }

/-- **A resource is ready**: what is under way shows within a number of polls, and if its
configuration is gone, it yields. -/
structure Ready (polls : Nat) (gone : Prop) (r : ClusterResource) : Prop where
  prompt : ∀ transition, r.transition = some transition → transition.pollsLeft ≤ polls
  yields : gone → r.Yields

/-- What yields has a transition or is in use nowhere, and both show in the placements. -/
lemma Ready.of_same {r' : ClusterResource} (h : r.Ready polls gone)
    (htransition : r'.transition = r.transition)
    (huse : r'.placements.map (·.isInUse) = r.placements.map (·.isInUse)) :
    r'.Ready polls gone := by
  have hany : r'.placements.any (·.isInUse) = r.placements.any (·.isInUse) := by
    have hmap := congrArg (List.any · id) huse
    simpa only [List.any_map, Function.id_comp] using hmap
  refine ⟨fun transition ht => h.prompt transition (htransition ▸ ht), fun hgone => ?_⟩
  rcases h.yields hgone with ⟨hnone, hfree⟩ | ⟨pollsLeft, hsome⟩
  · exact .inl ⟨htransition.trans hnone, hany.trans hfree⟩
  · exact .inr ⟨pollsLeft, htransition.trans hsome⟩

/-- A new resource is ready. -/
lemma ready_new (definition : ResourceDefinition) (polls : Nat) (gone : Prop) :
    ({ definition } : ClusterResource).Ready polls gone :=
  ⟨fun _ h => (nomatch h), fun _ => .inl ⟨rfl, rfl⟩⟩

/-- Time passes for a resource, and it stays ready. -/
lemma Ready.advance (h : r.Ready polls gone) : (Cluster.advance r).Ready polls gone := by
  rcases htransition : r.transition with _ | ⟨promote, _ | n⟩
  · simpa only [Cluster.advance, htransition] using h
  · rw [Cluster.advance_of_pollsLeft_zero htransition]
    refine ⟨fun _ hnone => ?_, fun hgone => .inl ⟨rfl, ?_⟩⟩
    · cases hnone
    · rcases h.yields hgone with ⟨hnone, -⟩ | ⟨pollsLeft, hsome⟩
      · cases htransition.symm.trans hnone
      · cases htransition.symm.trans hsome
        exact Cluster.any_isInUse_settle_false r.placements
  · rw [Cluster.advance_of_pollsLeft_succ htransition]
    have hprompt := h.prompt _ htransition
    refine ⟨fun transition hsome => ?_, fun hgone => .inr ⟨n, ?_⟩⟩
    · cases hsome
      exact Nat.le_of_succ_le hprompt
    · rcases h.yields hgone with ⟨hnone, -⟩ | ⟨pollsLeft, hsome⟩
      · cases htransition.symm.trans hnone
      · cases htransition.symm.trans hsome
        rfl

/-- Placing a resource that is placed nowhere leaves it in use nowhere. -/
lemma Ready.onNodes (h : r.Ready polls gone) (name : String) (minor : Nat) (nodes : List String) :
    (Cluster.onNodes name minor nodes r).Ready polls gone := by
  refine ⟨h.prompt, fun hgone => ?_⟩
  rcases h.yields hgone with ⟨hnone, -⟩ | hdemoted
  · exact .inl ⟨hnone, Cluster.any_isInUse_newPlacements⟩
  · exact .inr hdemoted

/-- A resource without one of its volumes is in use where it was. -/
lemma Ready.removeVolume (h : r.Ready polls gone) (number : UInt32) :
    (Cluster.removeVolume number r).Ready polls gone :=
  h.of_same rfl (by simp only [Cluster.removeVolume, List.map_map]; rfl)

lemma Ready.withDiskState (h : r.Ready polls gone) (node : String) (number : UInt32)
    (state : DiskState) : (Cluster.withDiskState node number state r).Ready polls gone :=
  h.of_same rfl (map_changeFirst (f := Cluster.setVolumeState number state) (fun _ => rfl) _ _)

end ClusterResource

/-! ## Endpoints that can be released -/

namespace Cluster

variable {id name : String} {s t : Cluster} {α : Type}

/-- **An endpoint can be released**: its configuration lists its resource, and the resource is
ready. -/
structure Releasable (id name : String) (c : Cluster) : Prop where
  text : OwnTextWith (fun config => config.resources.contains name = true) id name c
  ready : ∀ r, c.resources.find? name = some r →
    r.Ready c.transitionPolls (c.configs.find? (PromoterConfig.pathOf id) = none)

/-- Where the text of an endpoint is, nothing has to yield. -/
lemma Releasable.of_text {text : ConfigText}
    (htext : t.configs.find? (PromoterConfig.pathOf id) = some text)
    (hown : OwnTextWith (fun config => config.resources.contains name = true) id name t)
    (hprompt : ∀ r, t.resources.find? name = some r → ∀ transition,
      r.transition = some transition → transition.pollsLeft ≤ t.transitionPolls) :
    Releasable id name t :=
  ⟨hown, fun r hr => ⟨hprompt r hr, fun hnone => by
    rw [htext] at hnone
    cases hnone⟩⟩

/-- Changes of storage that keep resources ready keep an endpoint releasable. -/
lemma Releasable.of_storage (h : Releasable id name s) {other : String}
    (hsame : SameOutside none other s t)
    (hready : ∀ polls gone, (∀ r, s.resources.find? name = some r → r.Ready polls gone) →
      ∀ r, t.resources.find? name = some r → r.Ready polls gone) : Releasable id name t := by
  refine ⟨fun text htext => h.text text ?_, ?_⟩
  · rwa [hsame.find?_configs] at htext
  · rw [hsame.transitionPolls, hsame.find?_configs]
    exact hready _ _ h.ready

/-- What is there of an endpoint decides whether it can be released. -/
lemma Releasable.of_same (h : Releasable id name s)
    (hpolls : t.transitionPolls = s.transitionPolls)
    (hresource : t.resources.find? name = s.resources.find? name)
    (htext : t.configs.find? (PromoterConfig.pathOf id)
      = s.configs.find? (PromoterConfig.pathOf id)) : Releasable id name t := by
  refine ⟨fun text => ?_, ?_⟩
  · rw [htext]
    exact h.text text
  · rw [hpolls, hresource, htext]
    exact h.ready

lemma releasable_placements (h : Releasable id name s) :
    Releasable id name (placements name s).2 := by
  refine h.of_storage (sameOutside_placements none name s) fun polls gone hready r hr => ?_
  rcases placements_cases name s with ⟨n, err, hrun⟩ | hrun
  · rw [hrun] at hr
    exact hready r hr
  · rw [hrun, passTime] at hr
    split at hr
    · exact hready r hr
    · have hadvanced := (find?_changeResource s name name advance).symm.trans hr
      rw [if_pos rfl] at hadvanced
      obtain ⟨old, hold, rfl⟩ := Option.map_eq_some_iff.1 hadvanced
      exact (hready old hold).advance

lemma releasable_ensureResource (h : Releasable id name s) {request : ResourceRequest}
    (hname : request.name = name) (mayExtend : Bool) :
    Releasable id name (ensureResource request mayExtend s).2 := by
  subst hname
  refine h.of_storage (sameOutside_ensureResource none request mayExtend s)
    fun polls gone hready => ?_
  exact ensureResource_induction (motive := fun r => r.Ready polls gone)
    (fun definition => ClusterResource.ready_new definition polls gone)
    (fun _ _ hr => hr.of_same rfl rfl)
    (fun _ _ _ hr => hr.of_same rfl (ClusterResource.map_extendPlacements (fun _ _ => rfl) _ _ _))
    (fun _ _ _ hr _ => hr.onNodes _ _ _) mayExtend hready

lemma releasable_deleteResource (h : Releasable id name s) :
    Releasable id name (deleteResource name s).2 := by
  refine h.of_storage (sameOutside_deleteResource none name s) fun polls gone hready r hr => ?_
  rcases deleteResource_cases name s with ⟨-, err, hrun⟩ | ⟨_, -, -, hrun⟩
  · rw [hrun] at hr
    exact hready r hr
  · rw [hrun] at hr
    simp [countStorageWrite] at hr

lemma releasable_deleteVolume (h : Releasable id name s) (number : UInt32) :
    Releasable id name (deleteVolume name number s).2 := by
  refine h.of_storage (sameOutside_deleteVolume none name number s) fun polls gone hready r hr => ?_
  rcases deleteVolume_cases name number s with ⟨-, err, hrun⟩ | ⟨old, hold, -, hrun⟩
  · rw [hrun] at hr
    exact hready r hr
  · rw [hrun] at hr
    have hremoved := (find?_changeResource s name name (removeVolume number)).symm.trans hr
    rw [if_pos rfl, hold] at hremoved
    cases hremoved
    exact (hready old hold).removeVolume number

/-- What a configuration is told to do shows within the polls of a transition. -/
lemma prompt_scheduled (h : Releasable id name s) {config : PromoterConfig} {promote : Bool}
    {r : ClusterResource} (hr : (schedule config promote s).resources.find? name = some r)
    (transition : Transition) (htransition : r.transition = some transition) :
    transition.pollsLeft ≤ s.transitionPolls := by
  rw [find?_schedule] at hr
  obtain ⟨old, hold, rfl⟩ := Option.map_eq_some_iff.1 hr
  rw [scheduled] at htransition
  split at htransition
  · cases htransition
    exact le_refl _
  · exact (h.ready old hold).prompt transition htransition

/-- **What a configuration lists is ready once it is told to be demoted.** -/
lemma ready_of_schedule {config : PromoterConfig} (hlists : config.resources.contains name = true)
    {r : ClusterResource} (hr : (schedule config false s).resources.find? name = some r)
    (gone : Prop) : r.Ready s.transitionPolls gone := by
  rw [find?_schedule] at hr
  obtain ⟨old, -, rfl⟩ := Option.map_eq_some_iff.1 hr
  rw [scheduled, if_pos hlists]
  exact ⟨fun transition h => by cases h; exact le_refl _, fun _ => .inr ⟨_, rfl⟩⟩

/-- Detaching the configuration of an endpoint begins to demote its resource. -/
lemma releasable_detach (h : Releasable id name s) {config : PromoterConfig}
    (hlists : config.resources.contains name = true) :
    Releasable id name (detach config s).2 := by
  refine ⟨Operation.ownTextWith_detach config h.text, fun r hr => ?_⟩
  rcases detach_cases config s with ⟨-, err, hrun⟩ | hrun
  · rw [hrun] at hr ⊢
    exact h.ready r hr
  · rw [hrun] at hr ⊢
    exact ready_of_schedule hlists hr _

/-- **Removing the configuration of an endpoint** begins to demote its resource. -/
lemma releasable_withoutConfig (h : Releasable id name s) :
    Releasable id name (withoutConfig id s) := by
  have hnone := find?_withoutConfig id s
  refine ⟨fun text htext => ?_, ?_⟩
  · rw [hnone] at htext
    cases htext
  rw [withoutConfig]
  cases htext : s.configs.find? (PromoterConfig.pathOf id) with
  | none => exact h.ready
  | some text =>
      obtain ⟨config, hbelongs, hlists, hcontent⟩ := h.text text htext
      simp only [hcontent, hbelongs.reads]
      exact fun r hr => ready_of_schedule hlists hr _

end Cluster

/-! ## Every call -/

namespace Operation

variable {p : Protocol} {id : p.Identity}

/-- **That an endpoint can be released lasts.** -/
lemma lasting_releasable : Lasting id
    (fun config => config.resources.contains (Protocol.resourceName id) = true)
    (Cluster.Releasable (Protocol.configId id) (Protocol.resourceName id)) where
  switch := fun _ _ hc => ⟨hc.text, hc.ready⟩
  stored := fun _ hc => hc.text
  written := fun _ _ _ he hconfig =>
    (Protocol.configId_inj he).2 ▸ PromoterConfig.contains_of_toPromoter hconfig
  placements := Triple.of_state fun _ hc => Cluster.releasable_placements hc
  ensureResource := fun _ mayExtend hname _ =>
    Triple.of_state fun _ hc => Cluster.releasable_ensureResource hc hname mayExtend
  deleteResource := Triple.of_state fun _ hc => Cluster.releasable_deleteResource hc
  deleteVolume := fun number =>
    Triple.of_state fun _ hc => Cluster.releasable_deleteVolume hc number
  ensureConfig := fun config hbelongs hlists => Triple.of_state fun c hc =>
    .of_text (hbelongs.find?_ensureConfig c)
      (ownTextWith_insert hbelongs hlists (Cluster.configs_ensureConfig config c))
      fun r hr => (hc.ready r hr).prompt
  attach := fun config hbelongs hlists => Triple.of_state fun c hc =>
    .of_text (hbelongs.find?_attach c)
      (ownTextWith_insert hbelongs hlists (Cluster.configs_attach config c))
      fun _ hr => Cluster.prompt_scheduled hc hr
  detach := fun _ _ hlists => Triple.of_state fun _ hc => Cluster.releasable_detach hc hlists
  deleteConfig := Triple.of_state fun _ hc => Cluster.releasable_withoutConfig hc

end Operation

/-! ## Every run of one protocol -/

namespace Cluster

open Operation

variable {p : Protocol} {c : Cluster}

/-- **In every run of one protocol each endpoint can be released.** -/
theorem Interrupted.releasable (hc : Interrupted (· = p) c) (id : p.Identity) :
    Releasable (Protocol.configId id) (Protocol.resourceName id) c := by
  induction hc with
  | fresh nodes groups polls hgroups =>
      exact ⟨fun text htext => (nomatch htext), fun r hr => (nomatch hr)⟩
  | @operate c q hc hq op w switches ih =>
      cases hq
      cases hop : op.identity? with
      | none => exact run_of_identity?_eq_none w switches lasting_releasable.switch hop ih
      | some other =>
          by_cases hid : Protocol.configId other = Protocol.configId id
          · rw [← hid, ← (Protocol.configId_inj hid).2] at ih ⊢
            exact lasting_releasable.run w switches op hop ih
          · -- endpoints of one protocol with different configurations have different resources
            have hname : Protocol.resourceName id ≠ Protocol.resourceName other := fun heq =>
              hid (by rw [Protocol.configId, Protocol.configId, heq])
            have hpath : PromoterConfig.pathOf (Protocol.configId id)
                ≠ PromoterConfig.pathOf (Protocol.configId other) := fun heq =>
              hid (PromoterConfig.pathOf_inj heq).symm
            have hsame := (within_run w switches op hop (hc.ownTexts _ other)).1
            exact ih.of_same hsame.transitionPolls (hsame.resources _ hname)
              (hsame.configs _ fun heq => hpath (Option.some.inj heq))
  | switch _ x ih => exact lasting_releasable.switch x _ ih
  | @setDiskState c _ name node number state ih =>
      refine ih.of_storage (sameOutside_setDiskState none name node number state c)
        fun polls gone hready r hr => ?_
      rcases setDiskState_cases name node number state c with ⟨err, hrun⟩ | hrun
      · rw [hrun] at hr
        exact hready r hr
      · rw [hrun] at hr
        have hchanged :=
          (find?_changeResource c name _ (withDiskState node number state)).symm.trans hr
        split at hchanged
        · obtain ⟨old, hold, rfl⟩ := Option.map_eq_some_iff.1 hchanged
          exact (hready old hold).withDiskState node number state
        · exact hready r hchanged

end Cluster

/-! ## Deleting -/

/-- A patience that lasts for some intervals lasts for fewer. -/
lemma Waiter.Endures.mono {w : Waiter} {m n : Nat} (h : w.Endures n) (hmn : m ≤ n) : w.Endures m :=
  ⟨h.cancelled, (Nat.mul_le_mul_right _ hmn).trans h.time⟩

namespace Cluster

variable {name : String} {s : Cluster}

/-- Time does not pass for what does not exist. -/
lemma changeResource_of_find?_eq_none (hnone : s.resources.find? name = none)
    (f : ClusterResource → ClusterResource) : s.changeResource name f = s := by
  have hsame : s.resources.adjust name f = s.resources := by
    refine SortedMap.ext_find? fun other => ?_
    rw [SortedMap.find?_adjust]
    split
    · rename_i hother
      rw [hother, hnone]
      rfl
    · rfl
  rw [changeResource, hsame]

/-- Reading the placements of what does not exist. -/
lemma placements_of_find?_eq_none (hpolls : s.failingPolls = 0)
    (hnone : s.resources.find? name = none) : placements name s = (.ok [], s) := by
  have htime : passTime name s = s := by
    rw [passTime, changeResource_of_find?_eq_none hnone, ite_self]
  rw [placements, bind_apply_ok (get_apply s), hpolls]
  show (Except.ok ((((passTime name s).resources.find? name).map (·.placements)).getD []),
    passTime name s) = _
  rw [htime, hnone]
  rfl

/-- Deleting what does not exist changes nothing, and counts as done. -/
lemma orAbsent_deleteResource_of_none (hnone : s.resources.find? name = none) :
    (deleteResource name).orAbsent s = (.ok (), s) := by
  have hrun : deleteResource name s = (.error (.notFound "resource-definition" name), s) := by
    rw [deleteResource, bind_apply_ok (get_apply s), hnone]
    rfl
  rw [Action.orAbsent, hrun]
  rfl

/-- **Deleting what is in use nowhere** leaves nothing of it. -/
lemma exists_orAbsent_deleteResource
    (hfree : ∀ r, s.resources.find? name = some r → r.placements.any (·.isInUse) = false) :
    ∃ t, (deleteResource name).orAbsent s = (.ok (), t) ∧ t.resources.find? name = none
      ∧ SameOutside none name s t ∧ t.failingPolls = s.failingPolls := by
  cases hr : s.resources.find? name with
  | none => exact ⟨s, orAbsent_deleteResource_of_none hr, hr, .refl _ _ _, rfl⟩
  | some r =>
      rcases deleteResource_cases name s with ⟨huse, -⟩ | ⟨-, -, -, hrun⟩
      · cases (huse r hr).symm.trans (hfree r hr)
      · have hsame := sameOutside_deleteResource none name s
        rw [hrun] at hsame
        refine ⟨_, by rw [Action.orAbsent, hrun], ?_, hsame, rfl⟩
        simp [countStorageWrite]

/-- Removing a configuration leaves what is held up. -/
lemma withoutConfig_same (id : String) (s : Cluster) :
    (withoutConfig id s).transitionPolls = s.transitionPolls
      ∧ (withoutConfig id s).stalled = s.stalled
      ∧ (withoutConfig id s).failingPolls = s.failingPolls := by
  rw [withoutConfig]
  split
  · exact ⟨rfl, rfl, rfl⟩
  · simp only
    split <;> exact ⟨rfl, rfl, rfl⟩

/-- Removing a configuration leaves placements. -/
lemma exists_find?_withoutConfig (id : String) {r : ClusterResource}
    (hr : s.resources.find? name = some r) :
    ∃ r', (withoutConfig id s).resources.find? name = some r' ∧ r'.placements = r.placements := by
  rw [withoutConfig]
  split
  · exact ⟨r, hr, rfl⟩
  · simp only
    split
    · refine ⟨_, (find?_schedule _ false _ name).trans (congrArg _ hr), ?_⟩
      rw [scheduled]
      split <;> rfl
    · exact ⟨r, hr, rfl⟩

end Cluster

namespace Operation

variable {p : Protocol} {id : p.Identity} {c s t u : Cluster} {w : Waiter}

/-- Deleting goes through if the wait does and the resource can be deleted after it. -/
lemma delete_eq_of_await
    (hawait : (gateway w).await (Protocol.resourceName id) "stop" Waiter.noneInUse
      (Cluster.withoutConfig (Protocol.configId id) c) = (.ok (), t))
    (hdelete : (Cluster.deleteResource (Protocol.resourceName id)).orAbsent t = (.ok (), u)) :
    (gateway w).delete id c = (.ok (), u) := by
  have hconfig : Action.inPhase ("failed to delete promoter config " ++ Protocol.configId id)
      ((gateway w).backend.configs.delete (Protocol.configId id)) c
        = (.ok (), Cluster.withoutConfig (Protocol.configId id) c) :=
    inPhase_apply_ok _ (Cluster.deleteConfig_apply _ c)
  rw [Gateway.delete, bind_apply_ok hconfig, bind_apply_ok hawait]
  exact inPhase_apply_ok _ hdelete

/-- **Deleting again changes nothing**: neither a configuration nor a resource is left. -/
lemma delete_again (hw : w.cancelled = false) (hpolls : c.failingPolls = 0)
    (htext : c.configs.find? (PromoterConfig.pathOf (Protocol.configId id)) = none)
    (hnone : c.resources.find? (Protocol.resourceName id) = none) :
    (gateway w).delete id c = (.ok (), c) := by
  have hconfig : Cluster.withoutConfig (Protocol.configId id) c = c := by
    rw [Cluster.withoutConfig, htext]
  refine delete_eq_of_await (t := c) ?_ (Cluster.orAbsent_deleteResource_of_none hnone)
  rw [hconfig]
  exact await_eq_ok w hw (Cluster.placements_of_find?_eq_none hpolls hnone) rfl "stop"

/-- **A wait for a resource that yields** succeeds, and leaves it in use nowhere. -/
lemma exists_await_of_ready {name : String} {r : ClusterResource} (hw : w.Endures s.transitionPolls)
    (hstalled : s.stalled = false) (hpolls : s.failingPolls = 0)
    (hr : s.resources.find? name = some r) (hready : r.Ready s.transitionPolls True) :
    ∃ t r', (gateway w).await name "stop" Waiter.noneInUse s = (.ok (), t)
      ∧ Cluster.Became name r' s t ∧ r'.placements.any (·.isInUse) = false := by
  cases huse : r.placements.any (·.isInUse) with
  | false =>
      -- the first poll ends the wait, whatever is under way
      have hfree : (Cluster.advance r).placements.any (·.isInUse) = false := by
        rcases hready.yields trivial with ⟨hnone, -⟩ | ⟨_ | n, hdemoted⟩
        · simpa only [Cluster.advance, hnone] using huse
        · rw [Cluster.advance_of_pollsLeft_zero hdemoted]
          exact Cluster.any_isInUse_settle_false _
        · rw [Cluster.advance_of_pollsLeft_succ hdemoted]
          exact huse
      exact ⟨_, _, await_eq_ok w hw.cancelled
        (Cluster.placements_of_find?_eq_some hstalled hpolls hr)
        (by rw [Waiter.noneInUse, Waiter.anyInUse, hfree]; rfl) "stop",
        Cluster.became_changeResource hr _, hfree⟩
  | true =>
      rcases hready.yields trivial with ⟨-, hfree⟩ | ⟨pollsLeft, hdemoted⟩
      · cases huse.symm.trans hfree
      · have hfree := Cluster.any_isInUse_settle_false r.placements
        have hbefore : Waiter.noneInUse r.placements = false := by
          rw [Waiter.noneInUse, Waiter.anyInUse, huse]
          rfl
        obtain ⟨t, hawait, hbecame⟩ := exists_await_of_transition
          (hw.mono (hready.prompt _ hdemoted)) hstalled hpolls hr hdemoted hbefore
          (by rw [Waiter.noneInUse, Waiter.anyInUse, Cluster.switched, hfree]; rfl) "stop"
        exact ⟨t, _, hawait, hbecame, hfree⟩

/-- **Deleting an endpoint that can be released** succeeds where nothing is held up for longer than
the patience lasts, and leaves nothing of it. -/
lemma exists_delete_of_releasable
    (h : Cluster.Releasable (Protocol.configId id) (Protocol.resourceName id) c)
    (hw : w.Endures c.transitionPolls) (hstalled : c.stalled = false)
    (hpolls : c.failingPolls = 0) :
    ∃ t, (gateway w).delete id c = (.ok (), t)
      ∧ t.configs.find? (PromoterConfig.pathOf (Protocol.configId id)) = none
      ∧ t.resources.find? (Protocol.resourceName id) = none ∧ t.failingPolls = 0 := by
  set s := Cluster.withoutConfig (Protocol.configId id) c with hs
  obtain ⟨htransition, hstalled', hpolls'⟩ := Cluster.withoutConfig_same (Protocol.configId id) c
  rw [← hs] at htransition hstalled' hpolls'
  have hreleasable : Cluster.Releasable (Protocol.configId id) (Protocol.resourceName id) s :=
    Cluster.releasable_withoutConfig h
  have htext : s.configs.find? (PromoterConfig.pathOf (Protocol.configId id)) = none :=
    Cluster.find?_withoutConfig _ c
  -- the wait ends with the resource in use nowhere, if it exists
  obtain ⟨t, hawait, hsame, hfailing, hfree⟩ : ∃ t,
      (gateway w).await (Protocol.resourceName id) "stop" Waiter.noneInUse s = (.ok (), t)
        ∧ Cluster.SameOutside none (Protocol.resourceName id) s t
        ∧ t.failingPolls = 0
        ∧ ∀ r, t.resources.find? (Protocol.resourceName id) = some r →
          r.placements.any (·.isInUse) = false := by
    cases hr : s.resources.find? (Protocol.resourceName id) with
    | none =>
        exact ⟨s, await_eq_ok w hw.cancelled
          (Cluster.placements_of_find?_eq_none (hpolls'.trans hpolls) hr) rfl "stop",
          .refl _ _ _, hpolls'.trans hpolls, fun r hr' => by cases hr.symm.trans hr'⟩
    | some r =>
        have hready := hreleasable.ready r hr
        obtain ⟨t, r', hawait, hbecame, hfree⟩ := exists_await_of_ready
          (htransition ▸ hw) (hstalled'.trans hstalled) (hpolls'.trans hpolls) hr
          ⟨hready.prompt, fun _ => hready.yields htext⟩
        refine ⟨t, hawait, hbecame.outside, hbecame.failingPolls.trans (hpolls'.trans hpolls),
          fun r₁ hr₁ => ?_⟩
        cases hbecame.resource.symm.trans hr₁
        exact hfree
  obtain ⟨u, hdelete, hnone, hsame', hfailing'⟩ := Cluster.exists_orAbsent_deleteResource hfree
  refine ⟨u, delete_eq_of_await hawait hdelete, ?_, hnone, hfailing'.trans hfailing⟩
  rw [hsame'.find?_configs, hsame.find?_configs, htext]

end Operation

open Operation in
/-- **Deleting converges.**  In every run of one protocol, whatever was interrupted before, deleting
an endpoint succeeds once nothing is held up for longer than the patience lasts.  Then there is
neither an endpoint nor a resource, and deleting it again succeeds and changes nothing. -/
theorem Cluster.Interrupted.delete_converges {p : Protocol} {c : Cluster}
    (hc : Interrupted (· = p) c) (id : p.Identity) {w : Waiter} (hw : w.Endures c.transitionPolls)
    (hstalled : c.stalled = false) (hpolls : c.failingPolls = 0) :
    ∃ t, (gateway w).delete id c = (.ok (), t)
      ∧ (∀ w', (gateway w').get id t = (.ok none, t))
      ∧ t.resources.find? (Protocol.resourceName id) = none
      ∧ ∀ w' : Waiter, w'.cancelled = false → (gateway w').delete id t = (.ok (), t) := by
  obtain ⟨t, hdelete, htext, hnone, hfailing⟩ :=
    exists_delete_of_releasable (hc.releasable id) hw hstalled hpolls
  refine ⟨t, hdelete, fun w' => ?_, hnone, fun w' hw' => delete_again hw' hfailing htext hnone⟩
  rw [get_eq_reported, reported_of_find?_eq_none htext]

/-! ## A deletion that is held up -/

namespace Operation

variable {p : Protocol} {w : Waiter}

/-- **While transitions stand still, a wait for one is in vain.** -/
lemma exists_await_of_stalled {name : String} {s : Cluster} {r : ClusterResource}
    (hstalled : s.stalled = true) (hpolls : s.failingPolls = 0)
    (hr : s.resources.find? name = some r) {done : List Placement → Bool}
    (hdone : done r.placements = false) (goal : String) :
    ∃ err, (gateway w).await name goal done s = (.error err, s) := by
  have hwait : ∃ err, w.waitUntil Cluster.backend.storage name done s = (.error err, s) := by
    rw [Waiter.waitUntil]
    split
    · exact ⟨_, rfl⟩
    · exact ⟨_, poll_of_stalled _ _ hstalled hpolls hr hdone _⟩
  obtain ⟨err, herr⟩ := hwait
  show ∃ err, Action.inPhase _ (w.waitUntil Cluster.backend.storage name done) s = (.error err, s)
  rw [Action.inPhase, herr]
  exact ⟨_, rfl⟩

/-- Deleting fails where the wait does, and leaves the resource. -/
lemma delete_eq_error_of_await {id : p.Identity} {c t : Cluster} {err : Error}
    (hawait : (gateway w).await (Protocol.resourceName id) "stop" Waiter.noneInUse
      (Cluster.withoutConfig (Protocol.configId id) c) = (.error err, t)) :
    (gateway w).delete id c = (.error err, t) := by
  have hconfig : Action.inPhase ("failed to delete promoter config " ++ Protocol.configId id)
      ((gateway w).backend.configs.delete (Protocol.configId id)) c
        = (.ok (), Cluster.withoutConfig (Protocol.configId id) c) :=
    inPhase_apply_ok _ (Cluster.deleteConfig_apply _ c)
  rw [Gateway.delete, bind_apply_ok hconfig]
  exact bind_apply_error hawait _

/-- The subsystem of one volume is deleted while transitions stand still: this fails and leaves its
resource in use without a configuration.  Once transitions go on, deleting it succeeds. -/
theorem delete_converges_createdCluster :
    ∃ err s, (gateway halfSecond).delete dataNqn
        { createdCluster plainSubsystem with stalled := true } = (.error err, s)
      ∧ s.configs.find? (PromoterConfig.pathOf (Protocol.configId dataNqn)) = none
      ∧ (∃ r, s.resources.find? (Protocol.resourceName dataNqn) = some r
        ∧ r.placements.any (·.isInUse) = true)
      ∧ ∃ t, (gateway halfSecond).delete dataNqn { s with stalled := false } = (.ok (), t)
        ∧ (∀ w', (gateway w').get dataNqn t = (.ok none, t))
        ∧ t.resources.find? (Protocol.resourceName dataNqn) = none
        ∧ ∀ w' : Waiter, w'.cancelled = false → (gateway w').delete dataNqn t = (.ok (), t) := by
  obtain ⟨config, r, -, hstands, -, huse, -⟩ :=
    exists_stands_createdCluster plainSubsystem (by decide) rfl
  have hrun : Cluster.Reachable (· = .nvmeof) (createdCluster plainSubsystem) :=
    reachable_createdCluster (by rfl) plainSubsystem
  -- named, so that nothing looks into how it was created
  obtain ⟨c, hcluster⟩ : ∃ c, createdCluster plainSubsystem = c := ⟨_, rfl⟩
  rw [hcluster] at hstands hrun ⊢
  set held : Cluster := { c with stalled := true } with hheld
  set s := Cluster.withoutConfig (Protocol.configId dataNqn) held with hs
  obtain ⟨htransition, hstalled, hpolls⟩ :=
    Cluster.withoutConfig_same (Protocol.configId dataNqn) held
  obtain ⟨r', hr', hsame⟩ := Cluster.exists_find?_withoutConfig (Protocol.configId dataNqn)
    (show held.resources.find? (Protocol.resourceName dataNqn) = some r from hstands.resource)
  have huse' : r'.placements.any (·.isInUse) = true := by rw [hsame, huse]
  have hwaits : Waiter.noneInUse r'.placements = false := by
    rw [Waiter.noneInUse, Waiter.anyInUse, huse']
    rfl
  obtain ⟨err, hawait⟩ := exists_await_of_stalled (w := halfSecond) (s := s) hstalled
    (hpolls.trans hstands.failingPolls) hr' hwaits "stop"
  have hdelete : (gateway halfSecond).delete dataNqn held = (.error err, s) :=
    delete_eq_error_of_await hawait
  have hheldRun : Cluster.Reachable (· = .nvmeof) s := by
    have hafter := (hrun.stall true).operate rfl (delete dataNqn) halfSecond
    rwa [after, ← hheld, hdelete] at hafter
  have hreleased : Cluster.Interrupted (· = .nvmeof) { s with stalled := false } :=
    (hheldRun.stall false).interrupted
  refine ⟨err, s, hdelete, Cluster.find?_withoutConfig _ _, ⟨r', hr', huse'⟩, ?_⟩
  refine hreleased.delete_converges dataNqn ⟨rfl, ?_⟩ rfl (hpolls.trans hstands.failingPolls)
  rw [show ({ s with stalled := false } : Cluster).transitionPolls = 0 from
    htransition.trans hstands.transitionPolls, Nat.zero_mul]
  exact Nat.zero_le _

end Operation

end FailoverStorage

import FailoverStorage.Proofs.Gateway.Repetition

/-!
# Requests over what was left behind

An operation that fails halfway can leave a resource without a configuration.  A request that finds
one takes it over: it refuses a resource without the requested volumes and brings the properties of
its definition up to date, but it looks neither at the group of the resource nor at the kind of its
sizes.

So a request that succeeds returns what it asks for in everything else, and these two are those of
the resource that was left behind (`Cluster.Reachable.agreesWith_of_create`).  They can differ from
what was asked for (`Operation.exists_create_leftover`).
-/

namespace FailoverStorage

open FailoverStorage.Action

namespace Endpoint

variable {p : Protocol} {e d : Endpoint p}

/-- An endpoint with the group and the kind of sizes of another. -/
def placedLike (e other : Endpoint p) : Endpoint p :=
  { e with resourceGroup := other.resourceGroup, grossSize := other.grossSize }

/-- What agrees with an endpoint is placed like it. -/
lemma placedLike_of_agreesWith (h : e.agreesWith d = true) : e.placedLike d = e := by
  have heq := of_decide_eq_true h
  rw [placedLike, ← congrArg Endpoint.resourceGroup heq, ← congrArg Endpoint.grossSize heq]

/-- What is read back with the same sizes agrees with the endpoint if it is placed like it. -/
lemma agreesWith_placedLike_recovered {definition : Option ResourceDefinition}
    {volumeDefinitions : List VolumeDefinition} {status : Status}
    (h : e = { d.recovered definition volumeDefinitions with status })
    (hsizes : ∀ v ∈ d.volumes, sizeOf volumeDefinitions v.number = v.sizeKib) :
    (e.placedLike d).agreesWith d = true := by
  rw [h, agreesWith, decide_eq_true_eq, placedLike, recovered, map_resized_of_sizes hsizes]

end Endpoint

/-- **A request over a resource without a configuration** returns the group and the kind of sizes of
that resource. -/
lemma Operation.told_of_create {c t : Cluster} (hc : Cluster.Reachable (fun _ => True) c)
    {p : Protocol} {requested e : Endpoint p} {w : Waiter}
    (hnone : c.configs.find? (PromoterConfig.pathOf requested.configId) = none)
    {r : ClusterResource} (hr : c.resources.find? requested.resourceName = some r)
    (h : (gateway w).create requested c = (.ok e, t)) :
    e.resourceGroup = Endpoint.groupOf (some r.definition)
      ∧ e.grossSize = Endpoint.grossSizeOf r.volumes.values := by
  obtain ⟨config, r', -, -, hrecovered, -, hinherits⟩ :=
    exists_recovered_of_create w hc (found_eq_none_iff.2 hnone) h
  rw [hr] at hinherits
  obtain ⟨hgroup, hkept⟩ := hinherits
  rw [hrecovered, ← hkept]
  exact ⟨Endpoint.groupOf_congr hgroup, rfl⟩

open Operation in
/-- **Creation returns what was asked for, but for the placement.**  In every run, if a request with
a volume succeeds, what it returns agrees with it up to the group and the kind of sizes.  It agrees
in these, too, exactly if the endpoint existed before or whatever resource was there tells them; if
only the resource was there, they are those of that resource. -/
theorem Cluster.Reachable.agreesWith_of_create {c t : Cluster} (hc : Reachable (fun _ => True) c)
    {p : Protocol} {requested e : Endpoint p} {w : Waiter} (hvolumes : requested.volumes ≠ [])
    (h : (gateway w).create requested c = (.ok e, t)) :
    (e.placedLike requested.fillDefaults).agreesWith requested.fillDefaults = true
      ∧ (e.agreesWith requested.fillDefaults = true
        ↔ (∃ text, c.configs.find? (PromoterConfig.pathOf requested.configId) = some text)
          ∨ ∀ r, c.resources.find? requested.resourceName = some r →
            requested.fillDefaults.ToldBy r)
      ∧ ∀ r, c.configs.find? (PromoterConfig.pathOf requested.configId) = none →
        c.resources.find? requested.resourceName = some r →
          e.resourceGroup = Endpoint.groupOf (some r.definition)
            ∧ e.grossSize = Endpoint.grossSizeOf r.volumes.values := by
  obtain ⟨hvalid, hcheck, stored?, hfound⟩ := checked_of_create_eq_ok w h
  cases stored? with
  | some stored =>
      -- what exists is returned only if it agrees
      have htext : c.configs.find? (PromoterConfig.pathOf requested.configId) ≠ none := by
        intro hnone
        rw [found_eq_none_iff.2 hnone] at hfound
        cases hfound
      rw [create_of_checks w hvalid hcheck hfound] at h
      have hagrees := agreesWith_of_createExisting w h
      refine ⟨?_, iff_of_true hagrees (.inl (Option.ne_none_iff_exists'.1 htext)),
        fun r hnone => absurd hnone htext⟩
      rwa [Endpoint.placedLike_of_agreesWith hagrees]
  | none =>
      obtain ⟨config, r, -, -, hrecovered, hprovides, -⟩ := exists_recovered_of_create w hc hfound h
      obtain ⟨-, hagrees⟩ := create_again_of_new w hc hfound h w
      exact ⟨Endpoint.agreesWith_placedLike_recovered hrecovered hprovides.sizes,
        hagrees.trans (repeatable_iff_of_volumes hvolumes), fun r hnone hr =>
          told_of_create hc hnone hr h⟩

namespace Operation

/-- The subsystem of one volume is returned as it was asked for on a fresh cluster. -/
theorem agreesWith_of_create_fresh : ∃ e t,
    (gateway halfSecond).create plainSubsystem {} = (.ok e, t)
      ∧ plainSubsystem.volumes ≠ [] ∧ e.agreesWith plainSubsystem.fillDefaults = true := by
  have hfresh : Cluster.Reachable (fun _ => True) {} :=
    .fresh _ _ _ fun _ _ hgroup => name_of_find?_groups_empty hgroup
  obtain ⟨e, hcreate, -⟩ := exists_create_subsystem plainSubsystem (by decide) rfl
  have hvolumes : plainSubsystem.volumes ≠ [] := List.cons_ne_nil _ _
  obtain ⟨-, hagrees, -⟩ := hfresh.agreesWith_of_create hvolumes hcreate
  exact ⟨e, _, hcreate, hvolumes, hagrees.2 (.inr fun r hr => nomatch hr)⟩

/-! ## A resource of another group -/

/-- A fresh cluster with a group that asks for more replicas than there are nodes. -/
def groupedCluster : Cluster :=
  { groups := .ofList
      [(defaultResourceGroup, usualGroup), ("wide", { name := "wide", placeCount := some 5 })] }

/-- The subsystem of one volume in the group that asks for too many replicas. -/
def wideSubsystem : Endpoint .nvmeof := { plainSubsystem with resourceGroup := "wide" }

/-- A cluster on which the creation of that subsystem failed. -/
def leftoverCluster : Cluster := (create wideSubsystem).after halfSecond groupedCluster

lemma reachable_leftoverCluster : Cluster.Reachable (fun _ => True) leftoverCluster := by
  refine .operate (.fresh _ _ _ fun name group hgroup => ?_) trivial _ _
  simp only [SortedMap.find?_ofList, List.foldl_cons, List.foldl_nil] at hgroup
  split at hgroup
  · cases hgroup
    exact Eq.symm ‹_›
  · split at hgroup
    · cases hgroup
      exact Eq.symm ‹_›
    · cases hgroup

/-- The failed creation left a resource of the other group, and no configuration. -/
lemma leftoverCluster_resource : ∃ r,
    leftoverCluster.resources.find? plainSubsystem.resourceName = some r
      ∧ r.definition.resourceGroup = "wide" := by
  have hresource : (leftoverCluster.resources.find? plainSubsystem.resourceName).any
      (·.definition.resourceGroup = "wide") = true := by decide +kernel
  obtain ⟨r, hr, hgroup⟩ := (Option.any_eq_true _ _).1 hresource
  exact ⟨r, hr, of_decide_eq_true hgroup⟩

/-- The subsystem can be created over what was left behind. -/
lemma exists_create_plainSubsystem_leftoverCluster : ∃ e t,
    (gateway halfSecond).create plainSubsystem leftoverCluster = (.ok e, t) := by
  have hvalid : plainSubsystem.fillDefaults.validate = .ok () := by decide
  obtain ⟨outcome, t, hensure, hok, hstalled, hpolls, htransition⟩ : ∃ outcome t,
      Cluster.ensureResource (Gateway.resourceRequest plainSubsystem.fillDefaults) false
          leftoverCluster = (outcome, t)
        ∧ outcome.toOption.any (fun deployment =>
          (t.resources.find? plainSubsystem.resourceName).any fun r =>
            deployment.placements = r.placements && r.placements.any (!·.diskless)
              && !r.placements.any (·.isInUse)) = true
        ∧ t.stalled = false ∧ t.failingPolls = 0 ∧ t.transitionPolls = 0 :=
    ⟨_, _, rfl, by decide +kernel, by decide +kernel, by decide +kernel, by decide +kernel⟩
  obtain ⟨deployment, hdeployment, hplaced⟩ := (Option.any_eq_true _ _).1 hok
  obtain ⟨r, hr, hplaced⟩ := (Option.any_eq_true _ _).1 hplaced
  simp only [Bool.and_eq_true, decide_eq_true_eq, Bool.not_eq_true'] at hplaced
  obtain ⟨⟨hplacements, hdisk⟩, hfree⟩ := hplaced
  cases outcome with
  | error err => cases hdeployment
  | ok deployment =>
      cases hdeployment
      obtain ⟨config, u, hcreate, hinstalled, hconfig, -⟩ := exists_create_of_ensure halfSecond
        hvalid rfl (by decide +kernel) hensure hr hplacements hstalled hpolls
        ⟨rfl, by rw [htransition]; decide⟩ hfree hdisk
      have hreported := reported_eq_recovered (Endpoint.settled_fillDefaults hvalid)
        (fun _ h => nomatch h) hinstalled.found_eq hconfig
        hinstalled.resource (fun _ _ h => nomatch h)
      exact ⟨_, u, hcreate.trans (by rw [hreported]; rfl)⟩

/-- **A request that succeeds and does not return what it asks for**: the resource that was left
behind is of another group. -/
theorem exists_create_leftover : Cluster.Reachable (fun _ => True) leftoverCluster
    ∧ plainSubsystem.volumes ≠ [] ∧ ∃ e t,
      (gateway halfSecond).create plainSubsystem leftoverCluster = (.ok e, t)
        ∧ e.agreesWith plainSubsystem.fillDefaults = false := by
  obtain ⟨e, t, hcreate⟩ := exists_create_plainSubsystem_leftoverCluster
  obtain ⟨r, hr, hgroup⟩ := leftoverCluster_resource
  obtain ⟨htold, -⟩ := told_of_create reachable_leftoverCluster (by decide +kernel) hr hcreate
  refine ⟨reachable_leftoverCluster, List.cons_ne_nil _ _, e, t, hcreate, ?_⟩
  rw [Endpoint.groupOf_some (hgroup ▸ by decide), hgroup] at htold
  refine Bool.eq_false_iff.2 fun hagrees => ?_
  have hwide : "wide" = defaultResourceGroup :=
    htold.symm.trans (congrArg Endpoint.resourceGroup (of_decide_eq_true hagrees))
  exact absurd hwide (by decide)

end Operation

end FailoverStorage

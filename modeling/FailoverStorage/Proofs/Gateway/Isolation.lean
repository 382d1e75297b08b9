import FailoverStorage.Proofs.Gateway.Confined

/-!
# Isolation of endpoints

Endpoints with different ids never share a configuration.  They share a resource exactly if their
names are the same, which only happens across protocols, and then an operation on one can reach what
is reported of the other.

**Isolation** (`Operation.get_after_of_configId_ne`) is what holds in every run.  The cluster at the
end shows that it cannot be had for endpoints that share a resource.
-/

namespace FailoverStorage

open FailoverStorage.Action

/-! ## Stored texts -/

namespace PromoterConfig

variable {config : PromoterConfig} {id name : String}

lemma Belongs.find?_ensureConfig (h : config.Belongs id name) (s : Cluster) :
    (Cluster.ensureConfig config s).2.configs.find? (pathOf id) = some
      { content := config.toToml
        attached := ((s.configs.find? config.path).map (·.attached)).getD false } := by
  rw [Cluster.configs_ensureConfig, path, h.hasId]
  exact (SortedMap.find?_insert _ _ _ _).trans (if_pos rfl)

lemma Belongs.find?_attach (h : config.Belongs id name) (s : Cluster) :
    (Cluster.attach config s).2.configs.find? (pathOf id)
      = some { content := config.toToml, attached := true } := by
  rw [Cluster.configs_attach, path, h.hasId]
  exact (SortedMap.find?_insert _ _ _ _).trans (if_pos rfl)

end PromoterConfig

/-! ## What is reported -/

namespace Operation

/-- What is reported depends on the text at the path and on the resource of the name. -/
lemma reported_congr {p : Protocol} {id : p.Identity} {s t : Cluster}
    (hconfig : t.configs.find? (PromoterConfig.pathOf (Protocol.configId id))
      = s.configs.find? (PromoterConfig.pathOf (Protocol.configId id)))
    (hresource : t.resources.find? (Protocol.resourceName id)
      = s.resources.find? (Protocol.resourceName id))
    (hgroups : t.groups = s.groups) : reported id t = reported id s := by
  rw [reported, reported, found, found, hconfig, Cluster.deployment, Cluster.deployment, hresource,
    hgroups]

/-- **A configuration is stored for an endpoint.** -/
structure Stored {p : Protocol} (id : p.Identity) (config : PromoterConfig) (attached : Bool)
    (c : Cluster) : Prop where
  belongs : config.Belongs (Protocol.configId id) (Protocol.resourceName id)
  text : c.configs.find? (PromoterConfig.pathOf (Protocol.configId id))
    = some { content := config.toToml, attached }

/-- The configuration with its place. -/
def storedAs {p : Protocol} (id : p.Identity) (config : PromoterConfig) (attached : Bool) :
    StoredConfig :=
  { config, path := PromoterConfig.pathOf (Protocol.configId id), attached }

@[simp] lemma storedAs_config {p : Protocol} (id : p.Identity) (config : PromoterConfig)
    (attached : Bool) : (storedAs id config attached).config = config := rfl

/-- What is stored for an endpoint is found. -/
lemma Stored.found_eq {p : Protocol} {id : p.Identity} {c : Cluster} {config : PromoterConfig}
    {attached : Bool} (h : Stored id config attached c) :
    found id c = .ok (some (storedAs id config attached)) := by
  rw [found, h.text, Cluster.readStored, h.belongs.reads]
  rfl

/-- Nothing is reported without a configuration. -/
lemma reported_of_find?_eq_none {p : Protocol} {id : p.Identity} {c : Cluster}
    (h : c.configs.find? (PromoterConfig.pathOf (Protocol.configId id)) = none) :
    reported id c = .ok none := by
  rw [reported, found, h]
  rfl

/-- **What is reported of an endpoint** whose configuration is that of a settled endpoint: what is
read back, with the status that the placements show. -/
lemma reported_eq_recovered {p : Protocol} {id : p.Identity} {c : Cluster} {d : Endpoint p}
    (h : d.Settled) (hblank : ∀ iqn ∈ Endpoint.initiators d.settings, Text.IsBlankFree iqn.text)
    {stored : StoredConfig} (hfound : found id c = .ok (some stored)) {placements : List Placement}
    (hconfig : d.toPromoter placements = .ok stored.config) {r : ClusterResource}
    (hr : c.resources.find? (Protocol.resourceName id) = some r)
    (hproperties : ∀ key value, d.properties.find? key = some value →
      r.definition.properties.find? key = some value) :
    reported id c = .ok (some
      { d.recovered (some r.definition) r.volumes.values with
        status := .ofPlacements stored.attached (some r.definition)
          (c.groups.find? r.definition.resourceGroup) r.placements }) := by
  have hread := Endpoint.ofPromoter_eq_recovered h hblank hconfig hproperties r.volumes.values
  rw [reported, hfound]
  simp only [ok_bind, Gateway.reconstruct, Cluster.deployment, hr, hread]
  rfl

/-- Without a resource no status is known. -/
lemma status_of_find?_eq_none {p : Protocol} {id : p.Identity} {c : Cluster}
    (h : c.resources.find? (Protocol.resourceName id) = none) {e : Endpoint p}
    (he : reported id c = .ok (some e)) : e.status = {} := by
  obtain ⟨stored?, -, he⟩ := bind_eq_ok_iff.1 he
  cases stored? with
  | none => cases he
  | some stored =>
      obtain ⟨e', he', heq⟩ := map_eq_ok_iff.1 he
      cases heq
      obtain ⟨b, -, he'⟩ := bind_eq_ok_iff.1 he'
      cases he'
      rw [Cluster.deployment, h]
      rfl

/-! ## Isolation -/

/-- **Isolation.**  In every run of all protocols, an operation on one endpoint leaves the stored
text of every endpoint with another id.  What is reported of that other endpoint stays the same too
if it is of the same protocol, if its resource has another name, or if it has no configuration. -/
theorem get_after_of_configId_ne {c : Cluster} (hc : Cluster.Reachable (fun _ => True) c)
    {p q : Protocol} (op : Operation p) (w : Waiter) {id : p.Identity}
    (hop : op.identity? = some id) {other : q.Identity}
    (hother : Protocol.configId id ≠ Protocol.configId other) :
    (op.after w c).configs.find? (PromoterConfig.pathOf (Protocol.configId other))
        = c.configs.find? (PromoterConfig.pathOf (Protocol.configId other))
      ∧ (p = q ∨ Protocol.resourceName id ≠ Protocol.resourceName other
          ∨ c.configs.find? (PromoterConfig.pathOf (Protocol.configId other)) = none →
        ∀ w', ((gateway w').get other (op.after w c)).1 = ((gateway w').get other c).1) := by
  obtain ⟨hsame, -⟩ := op.confined_after w hop (hc.ownTexts p id)
  have hconfig := hsame.configs (PromoterConfig.pathOf (Protocol.configId other))
    fun heq => hother (PromoterConfig.pathOf_inj (Option.some.inj heq)).symm
  refine ⟨hconfig, fun hcase w' => ?_⟩
  rw [get_eq_reported, get_eq_reported]
  -- another name keeps the resource, and without a text nothing depends on it
  have hname : Protocol.resourceName id ≠ Protocol.resourceName other →
      reported other (op.after w c) = reported other c := fun hname =>
    reported_congr hconfig (hsame.resources _ hname.symm) hsame.groups
  rcases hcase with rfl | hne | hnone
  · refine hname fun heq => hother ?_
    rw [Protocol.configId, Protocol.configId, heq]
  · exact hname hne
  · show reported other (op.after w c) = reported other c
    rw [reported_of_find?_eq_none (hconfig.trans hnone), reported_of_find?_eq_none hnone]

/-! ## Installed endpoints -/

/-- **An endpoint is installed in a cluster**: its configuration is stored and lists its resource,
which is there. -/
structure Installed {p : Protocol} (id : p.Identity) (config : PromoterConfig) (attached : Bool)
    (r : ClusterResource) (c : Cluster) : Prop extends Stored id config attached c where
  lists : config.resources.contains (Protocol.resourceName id) = true
  resource : c.resources.find? (Protocol.resourceName id) = some r

section

variable {p : Protocol} {id : p.Identity} {config : PromoterConfig} {attached : Bool}
  {r : ClusterResource} {c : Cluster}

/-- Storing the configuration of an endpoint over its resource installs it. -/
lemma installed_ensureConfig {e : Endpoint p} {placements : List Placement}
    (hconfig : e.toPromoter placements = .ok config)
    (hr : c.resources.find? e.resourceName = some r) :
    Installed e.identity config (((c.configs.find? config.path).map (·.attached)).getD false) r
      (Cluster.ensureConfig config c).2 := by
  have hbelongs := PromoterConfig.belongs_of_toPromoter hconfig
  exact ⟨⟨hbelongs, hbelongs.find?_ensureConfig c⟩, PromoterConfig.contains_of_toPromoter hconfig,
    hr⟩

/-- Attaching the configuration of an installed endpoint begins to promote its resource. -/
lemma Installed.attach (h : Installed id config attached r c) : Installed id config true
    { r with transition := some { promote := true, pollsLeft := c.transitionPolls } }
    (Cluster.attach config c).2 := by
  refine ⟨⟨h.belongs, h.belongs.find?_attach c⟩, h.lists, ?_⟩
  show (Cluster.schedule config true _).resources.find? _ = _
  rw [Cluster.find?_schedule, h.resource, Option.map_some, Cluster.scheduled, if_pos h.lists]

/-- Detaching the configuration of an installed endpoint begins to demote its resource, and holds
nothing up. -/
lemma Installed.exists_detach (h : Installed id config attached r c) :
    ∃ t, Cluster.detach config c = (.ok (), t)
      ∧ Installed id config false
        { r with transition := some { promote := false, pollsLeft := c.transitionPolls } } t
      ∧ t.stalled = c.stalled ∧ t.failingPolls = c.failingPolls
      ∧ t.transitionPolls = c.transitionPolls := by
  have hpath : config.path = PromoterConfig.pathOf (Protocol.configId id) :=
    congrArg PromoterConfig.pathOf h.belongs.hasId
  rcases Cluster.detach_cases config c with ⟨hnone, -⟩ | hdetach
  · rw [hpath, h.text] at hnone
    cases hnone
  · refine ⟨_, hdetach, ⟨⟨h.belongs, ?_⟩, h.lists, ?_⟩, rfl, rfl, rfl⟩
    · show (c.configs.adjust config.path _).find? _ = _
      rw [SortedMap.find?_adjust, if_pos hpath.symm, h.text]
      rfl
    · show (Cluster.schedule config false _).resources.find? _ = _
      rw [Cluster.find?_schedule, h.resource, Option.map_some, Cluster.scheduled, if_pos h.lists]

/-! ## An undisturbed cluster

Where nothing is held up and transitions take no time, starting and stopping an endpoint end after
one read of its placements.
-/

/-- **A cluster on which an endpoint stands**, and nothing disturbs it. -/
structure Stands {p : Protocol} (id : p.Identity) (config : PromoterConfig) (attached : Bool)
    (r : ClusterResource) (c : Cluster) : Prop extends Installed id config attached r c where
  stalled : c.stalled = false
  failingPolls : c.failingPolls = 0
  transitionPolls : c.transitionPolls = 0

/-- After one read of its placements an endpoint stands as it was told to. -/
lemma Installed.of_read {promote : Bool}
    (h : Installed id config attached { r with transition := some { promote, pollsLeft := 0 } } c)
    (hstalled : c.stalled = false) (hpolls : c.failingPolls = 0)
    (htransition : c.transitionPolls = 0) :
    Cluster.placements (Protocol.resourceName id) c
        = (.ok (Cluster.settle promote r.placements),
          c.changeResource (Protocol.resourceName id) Cluster.advance)
      ∧ Stands id config attached
        { r with transition := none, placements := Cluster.settle promote r.placements }
        (c.changeResource (Protocol.resourceName id) Cluster.advance) := by
  refine ⟨Cluster.placements_of_find?_eq_some hstalled hpolls h.resource,
    ⟨⟨⟨h.belongs, h.text⟩, h.lists, ?_⟩, hstalled, hpolls, htransition⟩⟩
  rw [Cluster.find?_changeResource, if_pos rfl, h.resource, Option.map_some]
  rfl

/-- A started endpoint is in use on a node with a disk. -/
lemma Stands.start (h : Stands id config attached r c)
    (hdisk : r.placements.any (!·.diskless) = true) (w : Waiter) (hw : w.cancelled = false) :
    Stands id config true
      { r with transition := none, placements := Cluster.settle true r.placements }
      ((start id).after w c) := by
  have hbegun := h.attach
  rw [h.transitionPolls] at hbegun
  obtain ⟨hread, hstands⟩ := hbegun.of_read h.stalled h.failingPolls h.transitionPolls
  rw [after_start w h.found_eq, storedAs_config,
    await_eq_ok w hw hread (Cluster.any_isInUse_settle_true hdisk)]
  exact hstands

/-- A stopped endpoint is in use nowhere. -/
lemma Stands.stop (h : Stands id config attached r c) (w : Waiter) (hw : w.cancelled = false) :
    Stands id config false
      { r with transition := none, placements := Cluster.settle false r.placements }
      ((stop id).after w c) := by
  obtain ⟨t, hdetach, hbegun, hstalled, hpolls, htransition⟩ := h.exists_detach
  rw [h.transitionPolls] at hbegun htransition
  obtain ⟨hread, hstands⟩ :=
    hbegun.of_read (hstalled.trans h.stalled) (hpolls.trans h.failingPolls) htransition
  have hfree : Waiter.noneInUse (Cluster.settle false r.placements) = true := by
    rw [Waiter.noneInUse, Waiter.anyInUse, Cluster.any_isInUse_settle_false]
    rfl
  rw [after_stop w h.found_eq hdetach, await_eq_ok w hw hread hfree]
  exact hstands

end

/-! ## A resource of two endpoints -/

/-- The name of a subsystem. -/
def dataNqn : Protocol.Identity .nvmeof :=
  (⟨"nqn.2020-01.com.example:data", by decide⟩ : Nqn)

/-- A subsystem of one volume that leaves everything else open. -/
def plainSubsystem : Endpoint .nvmeof :=
  { identity := dataNqn
    serviceIps := [⟨.v4 10 0 0 1, 24, by decide⟩]
    settings := ({} : NvmeSettings)
    volumes := [{ number := 1, sizeKib := 1024 }] }

/-- A patience of half a second. -/
def halfSecond : Waiter := { timeoutMs := 500, intervalMs := 5 }

/-- A cluster on which the subsystem was created and stopped. -/
def stoppedCluster : Cluster :=
  (stop dataNqn).after halfSecond ((create plainSubsystem).after halfSecond {})

/-- The group of a fresh cluster is under its name. -/
lemma name_of_find?_groups_empty {name : String} {group : ResourceGroup}
    (h : ({} : Cluster).groups.find? name = some group) : group.name = name := by
  simp only [SortedMap.find?_ofList, List.foldl_cons, List.foldl_nil] at h
  split at h
  · cases h
    exact Eq.symm ‹_›
  · cases h

lemma reachable_stoppedCluster {allowed : Protocol → Prop} (h : allowed .nvmeof) :
    Cluster.Reachable allowed stoppedCluster := by
  have hfresh : Cluster.Reachable allowed {} :=
    .fresh _ _ _ fun _ _ hgroup => name_of_find?_groups_empty hgroup
  exact (hfresh.operate h _ _).operate h _ _

/-- The subsystem stands on some nodes with its volumes and is in use nowhere. -/
lemma stands_stoppedCluster_volumes : ∃ placements config r,
    plainSubsystem.fillDefaults.toPromoter placements = .ok config
      ∧ Stands dataNqn config false r stoppedCluster ∧ r.transition = none
      ∧ r.placements ≠ [] ∧ r.placements.any (·.isInUse) = false ∧ r.volumes.keys = [0, 1] := by
  have hvalid : plainSubsystem.fillDefaults.validate = .ok () := by decide
  obtain ⟨outcome, t, hensure, hok, hplaced, hstalled, hpolls, htransition⟩ : ∃ outcome t,
      Cluster.ensureResource (Gateway.resourceRequest plainSubsystem.fillDefaults) false {}
        = (outcome, t) ∧ outcome.toOption.isSome = true
      ∧ (t.resources.find? (Protocol.resourceName dataNqn)).any
        (fun r => r.placements.any (!·.diskless) && r.volumes.keys = [0, 1]) = true
      ∧ t.stalled = false ∧ t.failingPolls = 0 ∧ t.transitionPolls = 0 :=
    ⟨_, _, rfl, by decide, by decide +kernel, by decide +kernel, by decide +kernel,
      by decide⟩
  cases outcome with
  | error err => cases hok
  | ok deployment =>
      obtain ⟨config, hconfig⟩ :=
        (Endpoint.settled_fillDefaults hvalid).exists_toPromoter deployment.placements
      obtain ⟨r, hr, hfirst⟩ := (Option.any_eq_true _ _).1 hplaced
      obtain ⟨hdisk, hkeys⟩ := (Bool.and_eq_true _ _).mp hfirst
      have hstored : Stands dataNqn config
          (((t.configs.find? config.path).map (·.attached)).getD false) r
          (Cluster.ensureConfig config t).2 :=
        ⟨installed_ensureConfig hconfig hr, hstalled, hpolls, htransition⟩
      have hstands := (hstored.start hdisk halfSecond rfl).stop halfSecond rfl
      have hidentity : plainSubsystem.identity = dataNqn := rfl
      have hcreated := after_create halfSecond hvalid rfl rfl hensure hconfig
      rw [hidentity] at hcreated
      rw [← hcreated] at hstands
      refine ⟨deployment.placements, config, _, hconfig, hstands, rfl, ?_, ?_,
        of_decide_eq_true hkeys⟩
      · intro hnil
        rw [Cluster.settle_eq_nil_iff, Cluster.settle_eq_nil_iff] at hnil
        rw [hnil] at hdisk
        cases hdisk
      · exact Cluster.any_isInUse_settle_false _

/-- The subsystem stands on some nodes and is in use nowhere. -/
lemma stands_stoppedCluster : ∃ placements config r,
    plainSubsystem.fillDefaults.toPromoter placements = .ok config
      ∧ Stands dataNqn config false r stoppedCluster ∧ r.transition = none
      ∧ r.placements ≠ [] ∧ r.placements.any (·.isInUse) = false := by
  obtain ⟨placements, config, r, hconfig, hstands, htransition, hplaced, hfree, -⟩ :=
    stands_stoppedCluster_volumes
  exact ⟨placements, config, r, hconfig, hstands, htransition, hplaced, hfree⟩

/-- The subsystem is reported with its volume and with the nodes on which it is placed. -/
lemma exists_reported_stoppedCluster : ∃ e, reported dataNqn stoppedCluster = .ok (some e)
    ∧ e.volumes ≠ [] ∧ e.status.nodes ≠ [] := by
  obtain ⟨placements, config, r, hconfig, hstands, -, hplaced, -⟩ := stands_stoppedCluster
  have hsettled : plainSubsystem.fillDefaults.Settled :=
    Endpoint.settled_fillDefaults (by decide)
  have hreported := reported_eq_recovered hsettled (fun _ h => nomatch h) hstands.found_eq hconfig
    hstands.resource fun _ _ h => nomatch h
  refine ⟨_, hreported, List.cons_ne_nil _ _, ?_⟩
  simpa [Status.ofPlacements] using hplaced

/-- Deleting an export of another name leaves what is reported of the subsystem. -/
theorem get_after_delete_other :
    ((gateway halfSecond).get dataNqn
        ((delete (p := .nfs) ("other" : String)).after halfSecond stoppedCluster)).1
      = ((gateway halfSecond).get dataNqn stoppedCluster).1 := by
  have hids : Protocol.configId (p := .nfs) ("other" : String) ≠ Protocol.configId dataNqn :=
    fun h => nomatch (Protocol.configId_inj h).1
  have hnames : Protocol.resourceName (p := .nfs) ("other" : String)
      ≠ Protocol.resourceName dataNqn := by
    decide
  obtain ⟨-, hget⟩ := get_after_of_configId_ne (reachable_stoppedCluster trivial)
    (delete (p := .nfs) ("other" : String)) halfSecond rfl hids
  exact hget (.inr (.inl hnames)) halfSecond

/-- **Two endpoints of one resource are not isolated.**  Deleting an export that never existed
removes the resource of the subsystem of the same name, and with it what is reported of the
subsystem, although their ids differ. -/
theorem get_after_delete_ne : Cluster.Reachable (fun _ => True) stoppedCluster
    ∧ Protocol.configId (p := .nfs) ("data" : String) ≠ Protocol.configId dataNqn
    ∧ ((gateway halfSecond).get dataNqn
        ((delete (p := .nfs) ("data" : String)).after halfSecond stoppedCluster)).1
      ≠ ((gateway halfSecond).get dataNqn stoppedCluster).1 := by
  have hids : Protocol.configId (p := .nfs) ("data" : String) ≠ Protocol.configId dataNqn :=
    fun h => nomatch (Protocol.configId_inj h).1
  refine ⟨reachable_stoppedCluster trivial, hids, ?_⟩
  obtain ⟨e, he, -, hnodes⟩ := exists_reported_stoppedCluster
  rw [get_eq_reported, get_eq_reported, he]
  intro h
  have hstatus := status_of_find?_eq_none ?_ h
  · rw [hstatus] at hnodes
    exact hnodes rfl
  -- there is no configuration to delete, so waiting ends at once and the resource is removed
  obtain ⟨-, config, r, -, hstands, htransition, -, hfree⟩ := stands_stoppedCluster
  have hnone : stoppedCluster.configs.find?
      (PromoterConfig.pathOf (Protocol.configId (p := .nfs) ("data" : String))) = none := by
    have hcreate := confined_after (c := {}) halfSecond (create plainSubsystem) rfl
      fun text htext => nomatch htext
    have hstop := confined_after halfSecond (stop dataNqn) rfl hcreate.2
    have hpath : some (PromoterConfig.pathOf (Protocol.configId (p := .nfs) ("data" : String)))
        ≠ some (PromoterConfig.pathOf (Protocol.configId dataNqn)) := fun heq =>
      hids (PromoterConfig.pathOf_inj (Option.some.inj heq))
    exact (hstop.1.configs _ hpath).trans (hcreate.1.configs _ hpath)
  have hkept : Cluster.withoutConfig (Protocol.configId (p := .nfs) ("data" : String))
      stoppedCluster = stoppedCluster := by
    rw [Cluster.withoutConfig, hnone]
  have hname : Protocol.resourceName dataNqn
      = Protocol.resourceName (p := .nfs) ("data" : String) := by
    decide
  have hstill : Cluster.advance r = r := by
    rw [Cluster.advance, htransition]
  have hread := Cluster.placements_of_find?_eq_some hstands.stalled hstands.failingPolls
    hstands.resource
  rw [hstill, hname] at hread
  have habsent := find?_after_delete halfSecond (p := .nfs) ("data" : String) rfl
    (by rw [hkept]; exact hread) (fun r' hr' => by
      rw [Cluster.find?_changeResource, if_pos rfl, ← hname, hstands.resource, Option.map_some,
        hstill] at hr'
      cases hr'
      rfl) (by rw [Waiter.noneInUse, Waiter.anyInUse, hfree]; rfl)
  rwa [← hname] at habsent

end Operation

end FailoverStorage

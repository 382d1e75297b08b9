import FailoverStorage.Proofs.Gateway.Interruption
import FailoverStorage.Proofs.Gateway.Legibility
import FailoverStorage.Proofs.Gateway.Resources

/-!
# Who manages a resource

The id of a configuration carries the tag of its protocol, and the name of its resource does not.
So the resource that a stored configuration manages says all of its id but the tag
(`Cluster.OwnTextsWith.exists_id_eq`): two configurations of one resource differ in their protocols
(`Cluster.Interrupted.exists_tags_of_managedBy`).

There can be two, since an endpoint takes over the resource of its name if the volumes there meet
its request (`Operation.exists_stands_of_metBy`), as a target does that is created under the name of
a subsystem (`Operation.exists_managedBy_sharedCluster`).
-/

namespace FailoverStorage

open FailoverStorage.Action

namespace Cluster

/-- **A resource is managed by a stored configuration**, which lists it. -/
def ManagedBy (name : String) (config : PromoterConfig) (c : Cluster) : Prop :=
  ∃ path text, c.configs.find? path = some text
    ∧ PromoterConfig.ofToml text.content = .ok config
    ∧ config.resources.contains name = true

variable {allowed : Protocol → Prop} {name : String} {config other : PromoterConfig} {c : Cluster}

/-- **A configuration that manages a resource is called after it.** -/
lemma OwnTextsWith.exists_id_eq {holds : Protocol → PromoterConfig → Prop}
    (h : OwnTextsWith holds c) (hmanaged : ManagedBy name config c) :
    ∃ p : Protocol, config.id = p.tag ++ "-" ++ name := by
  obtain ⟨path, text, htext, hreads, hlists⟩ := hmanaged
  obtain ⟨p, id, written, -, hbelongs, -, hcontent⟩ := h path text htext
  rw [hcontent, hbelongs.reads] at hreads
  cases hreads
  exact ⟨p, by rw [hbelongs.hasId, hbelongs.manages name hlists, Protocol.configId]⟩

/-- **Configurations that share a resource are of different protocols.**  In every run, however it
is interrupted, if two stored configurations with different ids manage one resource, then their ids
are its name after the tags of two protocols. -/
theorem Interrupted.exists_tags_of_managedBy (hc : Interrupted allowed c)
    (h : ManagedBy name config c) (hother : ManagedBy name other c) (hne : config.id ≠ other.id) :
    ∃ p q : Protocol, p ≠ q ∧ config.id = p.tag ++ "-" ++ name
      ∧ other.id = q.tag ++ "-" ++ name := by
  have htexts : OwnTextsWith (fun _ _ => True) c := hc.ownTextsWith fun _ _ _ _ _ => trivial
  obtain ⟨p, hp⟩ := htexts.exists_id_eq h
  obtain ⟨q, hq⟩ := htexts.exists_id_eq hother
  refine ⟨p, q, fun hpq => hne ?_, hp, hq⟩
  rw [hp, hq, hpq]

end Cluster

namespace Operation

/-! ## Taking a resource over -/

/-- **Creating an endpoint takes over the resource of its name** if the volumes there meet the
request, whoever manages it; the endpoint then stands on it. -/
theorem exists_stands_of_metBy {p : Protocol} {requested : Endpoint p} {w : Waiter}
    {group : ResourceGroup} {r : ClusterResource} {c : Cluster} (hw : w.cancelled = false)
    (hvalid : requested.fillDefaults.validate = .ok ()) (hexclusive : p.exclusiveKind = none)
    (hnone : c.configs.find? (PromoterConfig.pathOf requested.configId) = none)
    (hgroup : c.groups.find? requested.fillDefaults.resourceGroup = some group)
    (hr : c.resources.find? requested.resourceName = some r)
    (hmet : (Gateway.resourceRequest requested.fillDefaults).MetBy r.volumes.values)
    (hdisk : r.placements.any (!·.diskless) = true) (hstalled : c.stalled = false)
    (hpolls : c.failingPolls = 0) (htransition : c.transitionPolls = 0) :
    ∃ config r', Stands requested.identity config true r' ((create requested).after w c) := by
  have hplaced : r.placements ≠ [] := fun hnil => by
    rw [hnil] at hdisk
    cases hdisk
  obtain ⟨r', t, hensure, hr', -, hplacements, hpolls'⟩ :=
    Cluster.exists_ensureResource_of_metBy (Gateway.resourceRequest requested.fillDefaults)
      hgroup hr hmet hplaced
  have hsame := Cluster.sameOutside_ensureResource none
    (Gateway.resourceRequest requested.fillDefaults) false c
  rw [hensure] at hsame
  obtain ⟨config, hconfig⟩ :=
    (Endpoint.settled_fillDefaults hvalid).exists_toPromoter r'.placements
  have hstands : Stands requested.fillDefaults.identity config _ r'
      (Cluster.ensureConfig config t).2 :=
    ⟨installed_ensureConfig hconfig hr', hsame.stalled.trans hstalled, hpolls'.trans hpolls,
      hsame.transitionPolls.trans htransition⟩
  rw [after_create w hvalid hexclusive (found_eq_none_iff.2 hnone) hensure hconfig]
  exact ⟨config, _, hstands.start (hplacements ▸ hdisk) w hw⟩

/-! ## A target on the resource of a subsystem -/

/-- A target under the name of the subsystem. -/
def dataTarget : Endpoint .iscsi := { blankTarget with settings := ({} : IscsiSettings) }

/-- A cluster on which the subsystem was created and then the target. -/
def sharedCluster : Cluster := (create dataTarget).after halfSecond (createdCluster plainSubsystem)

lemma reachable_sharedCluster : Cluster.Reachable (fun _ => True) sharedCluster :=
  (reachable_createdCluster trivial _).operate trivial _ _

lemma configId_dataTarget_ne : dataTarget.configId ≠ Protocol.configId dataNqn :=
  fun h => nomatch (Protocol.configId_inj h).1

/-- A configuration that stands where it belongs manages its resource. -/
lemma Stands.managedBy {p : Protocol} {id : p.Identity} {config : PromoterConfig}
    {attached : Bool} {r : ClusterResource} {c : Cluster} (h : Stands id config attached r c) :
    Cluster.ManagedBy (Protocol.resourceName id) config c :=
  ⟨_, _, h.text, h.belongs.reads, h.lists⟩

/-- The target takes over the resource of the subsystem, which has the volumes that it asks for. -/
lemma exists_stands_dataTarget : ∃ config r,
    Stands dataTarget.identity config true r sharedCluster := by
  obtain ⟨config, r, -, hstands, -, huse, -, hvolumes⟩ :=
    exists_stands_createdCluster plainSubsystem (by decide) rfl
  have hrun : Cluster.Reachable (fun _ => True) (createdCluster plainSubsystem) :=
    reachable_createdCluster trivial plainSubsystem
  obtain ⟨hsame, -⟩ := confined_after (c := {}) halfSecond (create plainSubsystem) rfl
    fun text htext => by cases htext
  rw [sharedCluster]
  rw [← createdCluster] at hsame
  generalize createdCluster plainSubsystem = c at hstands hrun hsame ⊢
  have hnone : c.configs.find? (PromoterConfig.pathOf dataTarget.configId) = none :=
    hsame.configs _ fun heq =>
      configId_dataTarget_ne (PromoterConfig.pathOf_inj (Option.some.inj heq))
  have hgroup : c.groups.find? dataTarget.fillDefaults.resourceGroup = some usualGroup := by
    rw [hsame.groups]
    decide
  have hmissing : (Gateway.resourceRequest dataTarget.fillDefaults).missingVolumes
      ((Gateway.resourceRequest plainSubsystem.fillDefaults).withVolumes
        plainSubsystem.fillDefaults.storageVolumes .empty).values false = .ok [] := by decide
  have hmet : (Gateway.resourceRequest dataTarget.fillDefaults).MetBy r.volumes.values := by
    rw [hvolumes]
    exact (ResourceRequest.missingAmong_false_eq_ok hmissing).2
  have hplaced : r.placements ≠ [] := fun hnil => by
    rw [hnil] at huse
    cases huse
  have hdisk := (hrun.interrupted.all ClusterResource.lasts_answers _ _ hstands.resource).any_disk
    hplaced
  exact exists_stands_of_metBy rfl (by decide) rfl hnone hgroup hstands.resource hmet hdisk
    hstands.stalled hstands.failingPolls hstands.transitionPolls

/-- The subsystem stands beside the target. -/
lemma exists_managedBy_dataNqn : ∃ config : PromoterConfig,
    config.id = Protocol.configId dataNqn
      ∧ Cluster.ManagedBy (Protocol.resourceName dataNqn) config sharedCluster := by
  obtain ⟨config, r, -, hstands, -⟩ :=
    exists_stands_createdCluster plainSubsystem (by decide) rfl
  have hrun : Cluster.Reachable (fun _ => True) (createdCluster plainSubsystem) :=
    reachable_createdCluster trivial plainSubsystem
  obtain ⟨hsame, -⟩ := confined_after halfSecond (create dataTarget) rfl (hrun.ownTexts _ _)
  have htext := hsame.configs (PromoterConfig.pathOf (Protocol.configId dataNqn)) fun heq =>
    configId_dataTarget_ne (PromoterConfig.pathOf_inj (Option.some.inj heq)).symm
  exact ⟨config, hstands.belongs.hasId, _, _, htext.trans hstands.text, hstands.belongs.reads,
    hstands.lists⟩

/-- Two configurations manage the resource. -/
lemma exists_managers_sharedCluster : ∃ config other : PromoterConfig,
    Cluster.ManagedBy (Protocol.resourceName dataNqn) config sharedCluster
      ∧ Cluster.ManagedBy (Protocol.resourceName dataNqn) other sharedCluster
      ∧ config.id ≠ other.id := by
  obtain ⟨config, r, hstands⟩ := exists_stands_dataTarget
  obtain ⟨other, hid, hother⟩ := exists_managedBy_dataNqn
  have hname : Protocol.resourceName dataTarget.identity = Protocol.resourceName dataNqn := by
    decide
  refine ⟨config, other, hname ▸ hstands.managedBy, hother, fun heq => ?_⟩
  exact configId_dataTarget_ne (hstands.belongs.hasId.symm.trans (heq.trans hid))

/-- The two are of different protocols. -/
theorem exists_tags_sharedCluster : ∃ (config other : PromoterConfig) (p q : Protocol),
    Cluster.Interrupted (fun _ => True) sharedCluster
      ∧ Cluster.ManagedBy (Protocol.resourceName dataNqn) config sharedCluster
      ∧ Cluster.ManagedBy (Protocol.resourceName dataNqn) other sharedCluster
      ∧ config.id ≠ other.id ∧ p ≠ q
      ∧ config.id = p.tag ++ "-" ++ Protocol.resourceName dataNqn
      ∧ other.id = q.tag ++ "-" ++ Protocol.resourceName dataNqn := by
  obtain ⟨config, other, hconfig, hother, hne⟩ := exists_managers_sharedCluster
  obtain ⟨p, q, hpq, hp, hq⟩ :=
    reachable_sharedCluster.interrupted.exists_tags_of_managedBy hconfig hother hne
  exact ⟨config, other, p, q, reachable_sharedCluster.interrupted, hconfig, hother, hne, hpq, hp,
    hq⟩

/-- **A resource can be managed by two configurations**: a subsystem and a target of one name. -/
theorem exists_managedBy_sharedCluster : Cluster.Reachable (fun _ => True) sharedCluster
    ∧ ∃ (name : String) (config other : PromoterConfig), config.id ≠ other.id
      ∧ Cluster.ManagedBy name config sharedCluster
      ∧ Cluster.ManagedBy name other sharedCluster := by
  obtain ⟨config, other, hconfig, hother, hne⟩ := exists_managers_sharedCluster
  exact ⟨reachable_sharedCluster, _, config, other, hne, hconfig, hother⟩

end Operation

end FailoverStorage

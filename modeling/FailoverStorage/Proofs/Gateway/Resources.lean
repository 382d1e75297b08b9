import FailoverStorage.Proofs.Gateway.Interruption
import FailoverStorage.Proofs.Status

/-!
# What holds of every resource

An invariant of single resources needs no look at what an operation does: it is enough that whatever
can happen to a resource keeps it.  `ClusterResource.Lasts Q` says so of `Q`, and then `Q` holds of
every resource in every run, however it is interrupted (`Cluster.Interrupted.all`).

One such invariant is that each node on which a resource is placed answers
(`ClusterResource.Answers`): it has a disk, and it says whether the resource is in use there.
-/

namespace FailoverStorage

open FailoverStorage.Action

/-! ## What can happen to a resource -/

/-- **Whatever can happen to a resource keeps `Q`.** -/
structure ClusterResource.Lasts (Q : ClusterResource → Prop) : Prop where
  new : ∀ definition, Q { definition }
  definition : ∀ r definition, Q r → Q { r with definition }
  transition : ∀ r transition, Q r → Q { r with transition := some transition }
  advance : ∀ r, Q r → Q (Cluster.advance r)
  withVolume : ∀ r d minor, Q r → Q (Cluster.withVolume d minor r)
  onNodes : ∀ r name minor nodes, Q r → r.placements = [] → Q (Cluster.onNodes name minor nodes r)
  removeVolume : ∀ r number, Q r → Q (Cluster.removeVolume number r)
  withDiskState : ∀ r node number state, Q r → Q (Cluster.withDiskState node number state r)

namespace Cluster

variable {Q : ClusterResource → Prop} {s t : Cluster}

/-- `Q` holds of every resource. -/
def All (Q : ClusterResource → Prop) (c : Cluster) : Prop :=
  ∀ name r, c.resources.find? name = some r → Q r

/-! ## The actions of a cluster -/

/-- Changing one resource keeps what the change keeps. -/
lemma All.changeResource (h : All Q s) (name : String) {f : ClusterResource → ClusterResource}
    (hf : ∀ r, Q r → Q (f r)) : All Q (s.changeResource name f) := by
  intro other r hr
  rw [find?_changeResource] at hr
  split at hr
  · obtain ⟨old, hold, rfl⟩ := Option.map_eq_some_iff.1 hr
    exact hf old (h other old hold)
  · exact h other r hr

lemma All.schedule (h : All Q s) (hQ : ClusterResource.Lasts Q) (config : PromoterConfig)
    (promote : Bool) : All Q (schedule config promote s) := by
  intro name r hr
  rw [find?_schedule] at hr
  obtain ⟨old, hold, rfl⟩ := Option.map_eq_some_iff.1 hr
  rw [scheduled]
  split
  · exact hQ.transition old _ (h name old hold)
  · exact h name old hold

lemma All.placements (h : All Q s) (hQ : ClusterResource.Lasts Q) (name : String) :
    All Q (placements name s).2 := by
  rcases placements_cases name s with ⟨n, err, hrun⟩ | hrun
  · rw [hrun]
    exact h
  · rw [hrun, passTime]
    split
    · exact h
    · exact h.changeResource name hQ.advance

lemma All.ensureResource (h : All Q s) (hQ : ClusterResource.Lasts Q) (request : ResourceRequest)
    (mayExtend : Bool) : All Q (ensureResource request mayExtend s).2 := by
  intro name r hr
  by_cases hname : name = request.name
  · subst hname
    exact ensureResource_induction hQ.new hQ.definition hQ.withVolume
      (fun r minor nodes => hQ.onNodes r _ minor nodes) mayExtend (fun r => h _ r) r hr
  · rw [(sameOutside_ensureResource none request mayExtend s).resources name hname] at hr
    exact h name r hr

lemma All.deleteResource (h : All Q s) (name : String) : All Q (deleteResource name s).2 := by
  rcases deleteResource_cases name s with ⟨-, err, hrun⟩ | ⟨_, -, -, hrun⟩
  · rw [hrun]
    exact h
  · intro other r hr
    have herased : (s.resources.erase name).find? other = some r := by
      rw [hrun] at hr
      exact hr
    rw [SortedMap.find?_erase] at herased
    split at herased
    · cases herased
    · exact h other r herased

lemma All.deleteVolume (h : All Q s) (hQ : ClusterResource.Lasts Q) (name : String)
    (number : UInt32) : All Q (deleteVolume name number s).2 := by
  rcases deleteVolume_cases name number s with ⟨-, err, hrun⟩ | ⟨_, -, -, hrun⟩
  · rw [hrun]
    exact h
  · rw [hrun]
    exact h.changeResource name fun r hr => hQ.removeVolume r number hr

lemma All.attach (h : All Q s) (hQ : ClusterResource.Lasts Q) (config : PromoterConfig) :
    All Q (attach config s).2 :=
  All.schedule (s := { s with
    configs := s.configs.insert config.path { content := config.toToml, attached := true } })
    h hQ config true

lemma All.detach (h : All Q s) (hQ : ClusterResource.Lasts Q) (config : PromoterConfig) :
    All Q (detach config s).2 := by
  rcases detach_cases config s with ⟨-, err, hrun⟩ | hrun
  · rw [hrun]
    exact h
  · rw [hrun]
    exact All.schedule (s := { s with configs := _ }) h hQ config false

lemma All.withoutConfig (h : All Q s) (hQ : ClusterResource.Lasts Q) (id : String) :
    All Q (withoutConfig id s) := by
  rw [Cluster.withoutConfig]
  split
  · exact h
  · simp only
    split
    · exact All.schedule (s := { s with configs := _ }) h hQ _ false
    · exact h

lemma All.setDiskState (h : All Q s) (hQ : ClusterResource.Lasts Q) (name node : String)
    (number : UInt32) (state : DiskState) : All Q (setDiskState name node number state s).2 := by
  rcases setDiskState_cases name node number state s with ⟨err, hrun⟩ | hrun
  · rw [hrun]
    exact h
  · rw [hrun]
    exact h.changeResource name fun r hr => hQ.withDiskState r node number state hr

end Cluster

/-! ## Every run -/

namespace Operation

variable {p : Protocol} {id : p.Identity} {Q : ClusterResource → Prop}

/-- **What holds of every resource lasts**, beside the text of an endpoint. -/
lemma lasting_all (hQ : ClusterResource.Lasts Q) : Lasting id (fun _ => True) fun c =>
    Cluster.OwnTextWith (fun _ => True) (Protocol.configId id) (Protocol.resourceName id) c
      ∧ Cluster.All Q c :=
  have htext : Lasting id (fun _ => True) (Cluster.OwnTextWith (fun _ => True)
      (Protocol.configId id) (Protocol.resourceName id)) :=
    lasting_ownTextWith fun _ _ _ _ _ => trivial
  { switch := fun _ _ hc => hc
    stored := fun _ hc => hc.1
    written := fun _ _ _ _ _ => trivial
    placements := htext.placements.and (Triple.of_state fun _ hc => hc.placements hQ _)
    ensureResource := fun request mayExtend hname hgroup =>
      (htext.ensureResource request mayExtend hname hgroup).and
        (Triple.of_state fun _ hc => hc.ensureResource hQ request mayExtend)
    deleteResource := htext.deleteResource.and (Triple.of_state fun _ hc => hc.deleteResource _)
    deleteVolume := fun number =>
      (htext.deleteVolume number).and (Triple.of_state fun _ hc => hc.deleteVolume hQ _ number)
    ensureConfig := fun config hbelongs hholds =>
      (htext.ensureConfig config hbelongs hholds).and (Triple.of_state fun _ hc => hc)
    attach := fun config hbelongs hholds =>
      (htext.attach config hbelongs hholds).and (Triple.of_state fun _ hc => hc.attach hQ config)
    detach := fun config hbelongs hholds =>
      (htext.detach config hbelongs hholds).and (Triple.of_state fun _ hc => hc.detach hQ config)
    deleteConfig := htext.deleteConfig.and
      (Triple.of_state fun _ hc => hc.withoutConfig hQ _) }

end Operation

namespace Cluster

open Operation

/-- **What whatever can happen to a resource keeps, holds of every resource in every run.** -/
theorem Interrupted.all {allowed : Protocol → Prop} {c : Cluster} {Q : ClusterResource → Prop}
    (hc : Interrupted allowed c) (hQ : ClusterResource.Lasts Q) : All Q c := by
  induction hc with
  | fresh nodes groups polls hgroups => exact fun name r hr => (nomatch hr)
  | @operate c p hc _ op w switches ih =>
      cases hop : op.identity? with
      | none => exact run_of_identity?_eq_none w switches (fun _ _ h => h) hop ih
      | some id =>
          have hown : OwnTextWith (fun _ => True) (Protocol.configId id)
              (Protocol.resourceName id) c := fun text htext => by
            obtain ⟨config, hbelongs, hcontent⟩ := hc.ownTexts p id text htext
            exact ⟨config, hbelongs, trivial, hcontent⟩
          exact ((lasting_all hQ).run w switches op hop ⟨hown, ih⟩).2
  | switch _ x ih => exact ih
  | setDiskState _ name node number state ih => exact ih.setDiskState hQ name node number state

end Cluster

/-! ## Answering nodes -/

namespace ClusterResource

variable {r : ClusterResource}

/-- **The nodes on which a resource is placed answer**: each has a disk, and says whether the
resource is in use there. -/
def Answers (r : ClusterResource) : Prop :=
  ∀ p ∈ r.placements, p.diskless = false ∧ p.inUse.isSome = true

/-- Whether nodes answer shows in their disks and in what they say. -/
lemma Answers.of_same {r' : ClusterResource} (h : r.Answers)
    (hsame : r'.placements.map (fun p => (p.diskless, p.inUse.isSome))
      = r.placements.map fun p => (p.diskless, p.inUse.isSome)) : r'.Answers := by
  intro p hp
  have hmem : (p.diskless, p.inUse.isSome)
      ∈ r.placements.map fun p => (p.diskless, p.inUse.isSome) :=
    hsame ▸ List.mem_map.2 ⟨p, hp, rfl⟩
  obtain ⟨q, hq, heq⟩ := List.mem_map.1 hmem
  obtain ⟨hdisk, huse⟩ := Prod.mk.inj heq
  rw [← hdisk, ← huse]
  exact h q hq

/-- Promoting and demoting let every node answer. -/
lemma Answers.settle (h : r.Answers) (promote : Bool) :
    ∀ p ∈ Cluster.settle promote r.placements, p.diskless = false ∧ p.inUse.isSome = true := by
  intro p hp
  obtain ⟨q, hq, _, rfl⟩ := Status.exists_of_mem_settle hp
  exact ⟨(h q hq).1, rfl⟩

lemma Answers.advance (h : r.Answers) : (Cluster.advance r).Answers := by
  rw [Cluster.advance]
  split
  · exact h
  · exact h.settle _
  · exact h

lemma answers_newPlacements {name : String} {numbers : List UInt32} {minor : Nat}
    {nodes : List String} {p : Placement}
    (hp : p ∈ Cluster.newPlacements name numbers minor nodes) :
    p.diskless = false ∧ p.inUse.isSome = true := by
  induction nodes generalizing minor with
  | nil => cases hp
  | cons node rest ih =>
      rcases List.mem_cons.1 hp with rfl | hp
      · exact ⟨rfl, rfl⟩
      · exact ih hp

/-- A placed resource whose nodes answer has a disk somewhere. -/
lemma Answers.any_disk (h : r.Answers) (hplaced : r.placements ≠ []) :
    r.placements.any (!·.diskless) = true := by
  obtain ⟨p, hp⟩ := List.exists_mem_of_ne_nil _ hplaced
  exact List.any_eq_true.2 ⟨p, hp, by rw [(h p hp).1]; rfl⟩

/-- **Whatever can happen to a resource, its nodes answer.** -/
lemma lasts_answers : Lasts Answers where
  new := fun _ _ hp => nomatch hp
  definition := fun _ _ h => h
  transition := fun _ _ h => h
  advance := fun _ h => h.advance
  withVolume := fun _ _ _ h => h.of_same (map_extendPlacements (fun _ _ => rfl) _ _ _)
  onNodes := fun _ _ _ _ _ _ _ hp => answers_newPlacements hp
  removeVolume := fun _ _ h => h.of_same (by simp only [Cluster.removeVolume, List.map_map]; rfl)
  withDiskState := fun _ _ number state h =>
    h.of_same (map_changeFirst (f := Cluster.setVolumeState number state) (fun _ => rfl) _ _)

end ClusterResource

end FailoverStorage

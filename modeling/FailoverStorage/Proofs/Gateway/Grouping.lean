import FailoverStorage.Proofs.Cluster.Ensuring
import FailoverStorage.Proofs.Gateway.Resources

/-!
# Groups of resources

A resource names the group with which it was created, and that group stays known.  The group says on
how many nodes the resource is to be placed.  So a resource without placements is one that its group
places nowhere, or one for which there are too few nodes (`ClusterResource.Grouped`): in every run,
however it is interrupted (`Cluster.Interrupted.grouped`).

A request may take over a resource of another group.  It places the resource as its own group says,
which may be nowhere, and the resource keeps its group.
-/

namespace FailoverStorage

open FailoverStorage.Action

/-! ## One resource -/

namespace ClusterResource

/-- **A resource of a known group** of a cluster: without placements, the group asks for none or for
more than there are nodes. -/
structure Grouped (c : Cluster) (r : ClusterResource) : Prop where
  named : r.definition.resourceGroup ≠ ""
  known : ∃ group, c.groups.find? r.definition.resourceGroup = some group
    ∧ (r.placements = [] → group.replicas = 0 ∨ c.nodes.length < group.replicas)

variable {c t : Cluster} {r r' : ClusterResource}

/-- A resource stays in its group while it stays placed. -/
lemma Grouped.of_kept (h : Grouped c r) (hnodes : t.nodes = c.nodes) (hgroups : t.groups = c.groups)
    (hgroup : r'.definition.resourceGroup = r.definition.resourceGroup)
    (hplaced : r'.placements = [] → r.placements = []) : Grouped t r' := by
  obtain ⟨group, hfind, hempty⟩ := h.known
  refine ⟨hgroup ▸ h.named, group, ?_, fun hnil => ?_⟩
  · rw [hgroups, hgroup, hfind]
  · rw [hnodes]
    exact hempty (hplaced hnil)

/-- Whether there are placements shows in the layout. -/
lemma placements_eq_nil_of_layout (hlayout : r'.layout = r.layout) (h : r'.placements = []) :
    r.placements = [] := by
  have hdevices := (layout_eq_iff.1 hlayout).2.2
  rw [h] at hdevices
  exact List.map_eq_nil_iff.1 hdevices.symm

lemma Grouped.of_layout (h : Grouped c r) (hnodes : t.nodes = c.nodes)
    (hgroups : t.groups = c.groups) (hlayout : r'.layout = r.layout) : Grouped t r' :=
  h.of_kept hnodes hgroups (by rw [(layout_eq_iff.1 hlayout).1])
    (placements_eq_nil_of_layout hlayout)

end ClusterResource

/-! ## Ensuring -/

namespace Cluster

open ClusterResource

variable {request : ResourceRequest} {s t : Cluster} {r : ClusterResource}

/-- **Ensuring leaves a resource in a known group**: a new one is in the group that was asked for,
any other stays in its own. -/
lemma grouped_ensureResource (hnamed : request.resourceGroup ≠ "")
    (hgroups : ∀ name group, s.groups.find? name = some group → group.name = name)
    (h : ∀ r, s.resources.find? request.name = some r → r.Grouped s) (mayExtend : Bool)
    (hr : (ensureResource request mayExtend s).2.resources.find? request.name = some r) :
    r.Grouped s := by
  rcases ensureResource_find? request mayExtend s with
    ⟨err, hrun⟩ | ⟨group, missing, r', hgroup, -, hr', hdefinition, -⟩
  · rw [hrun] at hr
    exact h r hr
  cases hr.symm.trans hr'
  cases hr₀ : s.resources.find? request.name with
  | some r₀ =>
      refine (h r₀ hr₀).of_kept rfl rfl ?_ (placements_ensureResource hr₀ hr)
      rw [hdefinition, hr₀]
      rfl
  | none =>
      have hname : r.definition.resourceGroup = request.resourceGroup := by
        rw [hdefinition, hr₀]
        exact hgroups _ group hgroup
      refine ⟨hname ▸ hnamed, group, hname ▸ hgroup, fun hnil => ?_⟩
      by_cases hnodes : group.replicas ≤ s.nodes.length
      · obtain ⟨t, r', minor, hrun, hr', -, -, hplacements, -⟩ :=
          ensureResource_new request hgroup hr₀ hnodes mayExtend
        rw [hrun] at hr
        cases hr.symm.trans hr'
        rw [hplacements, newPlacements_eq_nil_iff, List.take_eq_nil_iff] at hnil
        rcases hnil with hzero | hnone
        · exact .inl hzero
        · rw [hnone] at hnodes
          exact .inl (Nat.le_zero.1 hnodes)
      · exact .inr (Nat.lt_of_not_le hnodes)

/-! ## Every run -/

/-- **A cluster with its resources in known groups**, each group under its name. -/
structure Grouped (c : Cluster) : Prop where
  names : ∀ name group, c.groups.find? name = some group → group.name = name
  resources : c.All (ClusterResource.Grouped c)

/-- What does not touch nodes, groups and layouts leaves resources in their groups. -/
lemma Grouped.of_layout (h : Grouped s) (hnodes : t.nodes = s.nodes) (hgroups : t.groups = s.groups)
    (hlayout : ∀ name, t.layout? name = s.layout? name) : Grouped t := by
  refine ⟨hgroups ▸ h.names, fun name r hr => ?_⟩
  obtain ⟨r₀, hr₀, heq⟩ := exists_of_layout?_eq (hlayout name) hr
  exact (h.resources name r₀ hr₀).of_layout hnodes hgroups heq

/-- What touches one resource leaves the others in their groups. -/
lemma Grouped.of_sameOutside {path : Option String} {name : String} (h : Grouped s)
    (hsame : SameOutside path name s t)
    (hr : ∀ r, t.resources.find? name = some r → r.Grouped s) : Grouped t := by
  refine ⟨hsame.groups ▸ h.names, fun other r hother => ?_⟩
  have hgrouped : r.Grouped s := by
    by_cases hname : other = name
    · exact hr r (hname ▸ hother)
    · rw [hsame.resources other hname] at hother
      exact h.resources other r hother
  exact hgrouped.of_kept hsame.nodes hsame.groups rfl id

lemma nodes_groups_detach (config : PromoterConfig) (s : Cluster) :
    (detach config s).2.nodes = s.nodes ∧ (detach config s).2.groups = s.groups := by
  rcases detach_cases config s with ⟨-, err, hrun⟩ | hrun
  · rw [hrun]
    exact ⟨rfl, rfl⟩
  · rw [hrun]
    exact ⟨rfl, rfl⟩

lemma nodes_groups_withoutConfig (id : String) (s : Cluster) :
    (withoutConfig id s).nodes = s.nodes ∧ (withoutConfig id s).groups = s.groups := by
  rw [withoutConfig]
  split
  · exact ⟨rfl, rfl⟩
  · simp only
    split <;> exact ⟨rfl, rfl⟩

lemma Grouped.deleteResource (h : Grouped s) (name : String) :
    Grouped (Cluster.deleteResource name s).2 := by
  refine h.of_sameOutside (sameOutside_deleteResource none name s) fun r hr => ?_
  rcases deleteResource_cases name s with ⟨-, err, hrun⟩ | ⟨_, -, -, hrun⟩
  · rw [hrun] at hr
    exact h.resources name r hr
  · rw [hrun] at hr
    simp [countStorageWrite] at hr

lemma Grouped.deleteVolume (h : Grouped s) (name : String) (number : UInt32) :
    Grouped (Cluster.deleteVolume name number s).2 := by
  refine h.of_sameOutside (sameOutside_deleteVolume none name number s) fun r hr => ?_
  rcases deleteVolume_cases name number s with ⟨-, err, hrun⟩ | ⟨r₀, hr₀, -, hrun⟩
  · rw [hrun] at hr
    exact h.resources name r hr
  · rw [hrun] at hr
    have hremoved := (find?_changeResource s name name (removeVolume number)).symm.trans hr
    rw [if_pos rfl, hr₀] at hremoved
    cases hremoved
    exact (h.resources name r₀ hr₀).of_kept rfl rfl rfl List.map_eq_nil_iff.1

end Cluster

namespace Operation

variable {p : Protocol} {id : p.Identity}

/-- **That resources are in known groups lasts**, beside the text of an endpoint. -/
lemma lasting_grouped : Lasting id (fun _ => True) fun c =>
    Cluster.OwnTextWith (fun _ => True) (Protocol.configId id) (Protocol.resourceName id) c
      ∧ c.Grouped :=
  have htext : Lasting id (fun _ => True) (Cluster.OwnTextWith (fun _ => True)
      (Protocol.configId id) (Protocol.resourceName id)) :=
    lasting_ownTextWith fun _ _ _ _ _ => trivial
  { switch := fun _ _ hc => ⟨hc.1, hc.2.of_layout rfl rfl fun _ => rfl⟩
    stored := fun _ hc => hc.1
    written := fun _ _ _ _ _ => trivial
    placements := htext.placements.and (Triple.of_state fun c hc =>
      have hsame := Cluster.sameOutside_placements none (Protocol.resourceName id) c
      hc.of_layout hsame.nodes hsame.groups fun _ => Cluster.layout?_placements _ _ c)
    ensureResource := fun request mayExtend hname hgroup =>
      (htext.ensureResource request mayExtend hname hgroup).and (Triple.of_state fun c hc =>
        hc.of_sameOutside (Cluster.sameOutside_ensureResource none request mayExtend c)
          fun _ => Cluster.grouped_ensureResource hgroup hc.names (hc.resources _) mayExtend)
    deleteResource := htext.deleteResource.and (Triple.of_state fun _ hc => hc.deleteResource _)
    deleteVolume := fun number =>
      (htext.deleteVolume number).and (Triple.of_state fun _ hc => hc.deleteVolume _ number)
    ensureConfig := fun config hbelongs hholds =>
      (htext.ensureConfig config hbelongs hholds).and (Triple.of_state fun _ hc =>
        hc.of_layout rfl rfl fun _ => rfl)
    attach := fun config hbelongs hholds =>
      (htext.attach config hbelongs hholds).and (Triple.of_state fun c hc =>
        hc.of_layout rfl rfl (Cluster.layout?_schedule config true c))
    detach := fun config hbelongs hholds =>
      (htext.detach config hbelongs hholds).and (Triple.of_state fun c hc =>
        have hsame := Cluster.nodes_groups_detach config c
        hc.of_layout hsame.1 hsame.2 (Cluster.layout?_detach config c))
    deleteConfig := htext.deleteConfig.and (Triple.of_state fun c hc =>
      have hsame := Cluster.nodes_groups_withoutConfig (Protocol.configId id) c
      hc.of_layout hsame.1 hsame.2 (Cluster.layout?_withoutConfig _ c)) }

end Operation

namespace Cluster

open Operation

/-- **In every run every resource is of a known group**, and placed as far as its group can be
satisfied, or was placed for another. -/
theorem Interrupted.grouped {allowed : Protocol → Prop} {c : Cluster}
    (hc : Interrupted allowed c) : c.Grouped := by
  induction hc with
  | fresh nodes groups polls hgroups => exact ⟨hgroups, fun name r hr => (nomatch hr)⟩
  | @operate c p hc _ op w switches ih =>
      cases hop : op.identity? with
      | none =>
          have hswitch : ∀ (x : Switch) (c : Cluster), c.Grouped → (x.set c).Grouped :=
            fun _ _ h => h.of_layout rfl rfl fun _ => rfl
          exact run_of_identity?_eq_none w switches hswitch hop ih
      | some id =>
          have hown : OwnTextWith (fun _ => True) (Protocol.configId id)
              (Protocol.resourceName id) c := fun text htext => by
            obtain ⟨config, hbelongs, hcontent⟩ := hc.ownTexts p id text htext
            exact ⟨config, hbelongs, trivial, hcontent⟩
          exact (lasting_grouped.run w switches op hop ⟨hown, ih⟩).2
  | switch _ x ih => exact ih.of_layout rfl rfl fun _ => rfl
  | setDiskState _ name node number state ih =>
      have hsame := sameOutside_setDiskState none name node number state
      exact ih.of_layout (hsame _).nodes (hsame _).groups fun _ =>
        layout?_setDiskState name node number state _ _

end Cluster

end FailoverStorage

import FailoverStorage.Proofs.Gateway.Repetition
import FailoverStorage.Proofs.Status

/-!
# Requests that are fulfilled

A request for an endpoint of which nothing exists yet is fulfilled, whatever happened to the cluster
before: creation succeeds and returns what was asked for, in use on the first node and with every
volume well (`Cluster.Reachable.create_fulfils`).

`Operation.Fulfillable` lists what that takes.  Most of it is that the cluster takes on the endpoint
(`Operation.Accepts`).  Two conditions are on the request, because a configuration cannot tell
everything: gross sizes need a volume that has one, and the names of initiators are told apart by
blanks.
-/

namespace FailoverStorage

open FailoverStorage.Action

/-! ## What is asked for -/

namespace Endpoint

variable {p : Protocol}

/-- Completing an endpoint leaves its initiators. -/
lemma initiators_fillDefaults (e : Endpoint p) :
    initiators e.fillDefaults.settings = initiators e.settings := by
  cases p <;> rfl

/-- The data volumes of a new resource are those of its endpoint. -/
lemma Settled.filter_keys_newVolumes {e : Endpoint p} (h : e.Settled) :
    e.newVolumes.keys.filter (· ≠ Volume.privateNumber) = e.volumes.map (·.number) := by
  refine Ascending.eq_of_mem_iff (e.newVolumes.ascending_keys.filter _)
    (List.pairwise_map.2 h.ascending) fun n => ?_
  rw [List.mem_filter, SortedMap.mem_keys_iff, h.find?_newVolumes, Option.isSome_map,
    List.find?_isSome, decide_eq_true_eq, List.mem_map]
  constructor
  · rintro ⟨⟨v, hv, hnumber⟩, hn⟩
    have hnumber : v.number = n := of_decide_eq_true hnumber
    rcases List.mem_cons.1 hv with rfl | hv
    · exact absurd hnumber.symm hn
    · exact ⟨v, hv, hnumber⟩
  · rintro ⟨v, hv, rfl⟩
    exact ⟨⟨v, List.mem_cons_of_mem _ hv, decide_eq_true rfl⟩, h.numbers v hv⟩

end Endpoint

namespace Operation

variable {p : Protocol} {requested : Endpoint p} {group : ResourceGroup} {c : Cluster} {w : Waiter}

/-! ## Undisturbed requests -/

/-- **A cluster can fulfil a request**: it takes on the endpoint, and the configuration of the
endpoint will tell everything that the request asks for. -/
structure Fulfillable (w : Waiter) (requested : Endpoint p) (group : ResourceGroup) (c : Cluster) :
    Prop extends Accepts w requested group c where
  gross : requested.grossSize = true → requested.volumes ≠ []
  blankFree : ∀ iqn ∈ Endpoint.initiators requested.settings, Text.IsBlankFree iqn.text

/-- The new resource of an endpoint is whole. -/
lemma whole_of_new {r : ClusterResource} {name : String} {minor : Nat} {nodes : List String}
    (hvolumes : r.volumes = requested.fillDefaults.newVolumes)
    (hplacements : r.placements = Cluster.newPlacements name r.volumes.keys minor nodes) :
    Status.Whole requested.fillDefaults.newVolumes.keys nodes r.placements := by
  rw [hplacements, hvolumes]
  exact Status.whole_newPlacements _ _ _ _

/-- **What a fulfilled request returns** agrees with the request, and its status is complete. -/
lemma Fulfillable.exists_create_status (h : Fulfillable w requested group c)
    (hc : Cluster.Reachable (fun _ => True) c) : ∃ e t,
      (gateway w).create requested c = (.ok e, t)
      ∧ e.agreesWith requested.fillDefaults = true
      ∧ e.status =
        { service := .started
          primary := (c.nodes.take group.replicas).head?
          nodes := c.nodes.take group.replicas
          volumes := requested.fillDefaults.volumes.map fun v =>
            { number := v.number, health := .ok } } := by
  have hsettled := Endpoint.settled_fillDefaults h.valid
  have hgroups : ∀ name group, c.groups.find? name = some group → group.name = name :=
    fun _ _ => hc.name_of_find?_groups
  obtain ⟨deployment, t, r, minor, config, u, hensure, hr, hdefinition, hvolumes, hplacements,
    hcreate, hinstalled, hconfig, -, hsame, -⟩ := h.exists_create
  have hwhole := whole_of_new hvolumes hplacements
  -- what is reported: the request with the sizes, group and kind of sizes that the storage tells
  obtain ⟨r', hr', hprovides, hinherits⟩ := exists_provides_ensureResource hsettled
    (hc.reachableBy.rooted.ordered _) hgroups hensure
  obtain rfl : r = r' := Option.some.inj (hr.symm.trans hr')
  have hreported := reported_eq_recovered hsettled
    (fun iqn hiqn => h.blankFree iqn (Endpoint.initiators_fillDefaults requested ▸ hiqn))
    hinstalled.found_eq hconfig hinstalled.resource
    hprovides.recorded
  have htells : requested.fillDefaults.ToldBy r := by
    have hnone : c.resources.find? requested.fillDefaults.resourceName = none := h.noResource
    rw [hinherits.toldBy_iff, hnone]
    cases hgross : requested.grossSize with
    | false => exact .inl hgross
    | true =>
        exact .inr fun hnil => h.gross hgross (Endpoint.fillDefaults_volumes_eq_nil_iff.1 hnil)
  -- its status: the group is found again under the name that the definition has
  have hfind : u.groups.find? r.definition.resourceGroup = some group := by
    have hname : r.definition.resourceGroup = group.name := by rw [hdefinition]; rfl
    rw [hsame.groups, hname, hgroups _ _ h.known, h.known]
  have hstatus := Status.ofPlacements_settle_of_whole hwhole h.take_nodes_ne_nil
    requested.fillDefaults.newVolumes.ascending_keys
    (by rw [List.length_take, Nat.min_eq_left h.nodes]) true r.definition
  rw [hsettled.filter_keys_newVolumes, List.map_map] at hstatus
  refine ⟨_, u, hcreate.trans (by rw [hreported]; rfl),
    (Endpoint.agreesWith_recovered_of_sizes _ hprovides.sizes _).2 htells, Eq.trans ?_ hstatus⟩
  rw [← hfind]
  rfl

end Operation

/-! ## All runs -/

open Operation in
/-- **Creation succeeds end to end.**  In every run, a request that the cluster can fulfil succeeds.
What it returns agrees with the request; the endpoint is started on the first node, placed on as
many of the first nodes as its group asks for, and each of its volumes is listed, in ascending
order and well. -/
theorem Cluster.Reachable.create_fulfils {c : Cluster} (hc : Reachable (fun _ => True) c)
    {p : Protocol} {requested : Endpoint p} {group : ResourceGroup} {w : Waiter}
    (h : Fulfillable w requested group c) : ∃ e t,
      (gateway w).create requested c = (.ok e, t)
      ∧ e.agreesWith requested.fillDefaults = true
      ∧ e.status.service = .started
      ∧ e.status.primary = c.nodes.head?
      ∧ e.status.nodes = c.nodes.take group.replicas
      ∧ (e.status.volumes.map (·.number)).Perm (requested.volumes.map (·.number))
      ∧ (e.status.volumes.map (·.number)).Pairwise (· < ·)
      ∧ ∀ v ∈ e.status.volumes, v.health = .ok := by
  obtain ⟨e, t, hcreate, hagrees, hstatus⟩ := h.exists_create_status hc
  have hnumbers : e.status.volumes.map (·.number)
      = requested.fillDefaults.volumes.map (·.number) := by
    rw [hstatus, List.map_map]
    rfl
  refine ⟨e, t, hcreate, hagrees, by rw [hstatus], ?_, by rw [hstatus], ?_, ?_, ?_⟩
  · rw [hstatus]
    exact List.head?_take.trans (if_neg (Nat.ne_of_gt h.replicas))
  · rw [hnumbers]
    exact Endpoint.numbers_fillDefaults_perm requested
  · rw [hnumbers]
    exact List.pairwise_map.2 (Endpoint.settled_fillDefaults h.valid).ascending
  · intro v hv
    rw [hstatus] at hv
    obtain ⟨_, -, rfl⟩ := List.mem_map.1 hv
    rfl

namespace Operation

/-! ## An export -/

/-- A fresh cluster whose transitions take two polls. -/
def slowCluster : Cluster := { transitionPolls := 2 }

/-- The export of one volume is created where a promotion takes two polls. -/
theorem create_fulfils_plainExport : ∃ e t,
    (gateway halfSecond).create Endpoint.plainExport slowCluster = (.ok e, t)
      ∧ e.agreesWith Endpoint.plainExport.fillDefaults = true
      ∧ e.status.service = .started ∧ e.status.primary = some "node-a"
      ∧ e.status.nodes = ["node-a", "node-b"]
      ∧ (e.status.volumes.map (·.number)).Perm [1] := by
  have hfresh : Cluster.Reachable (fun _ => True) slowCluster :=
    .fresh _ _ _ fun _ _ hgroup => name_of_find?_groups_empty hgroup
  have hfulfillable : Fulfillable halfSecond Endpoint.plainExport usualGroup slowCluster :=
    { accepts_fresh Endpoint.plainExport (by decide) rfl ⟨rfl, by decide⟩ with
      gross := fun h => by cases h
      blankFree := fun _ h => nomatch h }
  obtain ⟨e, t, hcreate, hagrees, hservice, hprimary, hnodes, hvolumes, -⟩ :=
    hfresh.create_fulfils hfulfillable
  exact ⟨e, t, hcreate, hagrees, hservice, hprimary, hnodes, hvolumes⟩

end Operation

end FailoverStorage

import FailoverStorage.Proofs.Endpoint.Numbers
import FailoverStorage.Proofs.Gateway.Coverage
import FailoverStorage.Proofs.Gateway.Isolation

/-!
# Configurations and storage are consistent

On a cluster where the gateway serves one protocol, what is stored and what is deployed belong
together in every run, however operations fail, transitions are held up and disks change state.

**Coverage.**  Every resource is sound, and every stored text describes an endpoint over the
resource of its name (`Cluster.Covered`).  For one endpoint that is `Operation.covers_after`; all
others are out of the operation's reach.

**Storage covers configurations** (`Cluster.Reachable.exists_backs`): behind every stored text there
is a resource with the volumes that its agents are about.

**Configurations are canonical** (`Operation.toPromoter_of_get`): what is stored is the
configuration of what is reported, so storing it again changes nothing.
-/

namespace FailoverStorage

open FailoverStorage.Action

/-! ## Coverage of a whole cluster -/

namespace Cluster

variable {p : Protocol} {c s t : Cluster}

/-- **A cluster is covered** if its resources are sound and each stored text describes an endpoint
of the protocol over a resource. -/
structure Covered (p : Protocol) (c : Cluster) : Prop where
  sound : ∀ name r, c.resources.find? name = some r → r.Sound name
  described : ∀ path text, c.configs.find? path = some text →
    ∃ (d : Endpoint p) (r : ClusterResource), path = PromoterConfig.pathOf d.configId
      ∧ c.resources.find? d.resourceName = some r ∧ d.Describes text.content r

/-- Coverage of the cluster is coverage of each endpoint. -/
lemma Covered.covers (h : Covered p c) (id : p.Identity) : Operation.Covers id c := by
  refine ⟨h.sound (Protocol.resourceName id), fun text htext => ?_⟩
  obtain ⟨d, r, hpath, hr, hdescribes⟩ := h.described _ text htext
  have hid : d.configId = Protocol.configId id := (PromoterConfig.pathOf_inj hpath).symm
  have hname : d.resourceName = Protocol.resourceName id := (Protocol.configId_inj hid).2
  exact ⟨d, r, hid, hname ▸ hr, hdescribes⟩

/-- Coverage shows in the texts and the layouts. -/
lemma Covered.of_layout (h : Covered p s)
    (hconfigs : ∀ path, t.configs.find? path = s.configs.find? path)
    (hlayout : ∀ name, t.layout? name = s.layout? name) : Covered p t := by
  refine ⟨fun name r hr => ?_, fun path text htext => ?_⟩
  · obtain ⟨r₀, hr₀, heq⟩ := exists_of_layout?_eq (hlayout name) hr
    exact (h.sound name r₀ hr₀).of_layout heq
  · rw [hconfigs] at htext
    obtain ⟨d, r₀, hpath, hr₀, hdescribes⟩ := h.described path text htext
    obtain ⟨r, hr, heq⟩ := exists_of_layout?_eq (hlayout d.resourceName).symm hr₀
    exact ⟨d, r, hpath, hr, hdescribes.of_layout heq.symm⟩

/-- **An operation keeps a cluster covered**: its own endpoint, and what it cannot reach. -/
lemma Covered.after (h : Covered p c) (hown : OwnTexts c) (w : Waiter) (op : Operation p) :
    Covered p (op.after w c) := by
  cases hop : op.identity? with
  | none => rwa [Operation.after_of_identity?_eq_none w hop]
  | some id =>
      have hcovers := op.covers_after w hop (h.covers id)
      obtain ⟨hsame, -⟩ := op.confined_after w hop (hown p id)
      refine ⟨fun name r hr => ?_, fun path text htext => ?_⟩
      · by_cases hname : name = Protocol.resourceName id
        · subst hname
          exact hcovers.sound r hr
        · rw [hsame.resources name hname] at hr
          exact h.sound name r hr
      · by_cases hpath : path = PromoterConfig.pathOf (Protocol.configId id)
        · subst hpath
          obtain ⟨d, r, hid, hr, hdescribes⟩ := hcovers.described text htext
          have hname : d.resourceName = Protocol.resourceName id := (Protocol.configId_inj hid).2
          exact ⟨d, r, by rw [hid], hname ▸ hr, hdescribes⟩
        · rw [hsame.configs path fun heq => hpath (Option.some.inj heq)] at htext
          obtain ⟨d, r, hd, hr, hdescribes⟩ := h.described path text htext
          -- endpoints of one protocol with the same resource have the same path
          have hname : d.resourceName ≠ Protocol.resourceName id := fun heq => hpath <| by
            rw [hd, Endpoint.configId, Protocol.configId, Protocol.configId,
              show Protocol.resourceName d.identity = _ from heq]
          exact ⟨d, r, hd, (hsame.resources _ hname).trans hr, hdescribes⟩

/-- **In every run of one protocol the cluster is covered.** -/
theorem Reachable.covered (hc : Reachable (· = p) c) : Covered p c := by
  induction hc with
  | fresh nodes groups polls hgroups =>
      refine ⟨fun name r hr => ?_, fun path text htext => ?_⟩
      · cases hr
      · cases htext
  | operate hc hp op w ih =>
      subst hp
      exact ih.after hc.ownTexts w op
  | stall _ stalled ih => exact ih.of_layout (fun _ => rfl) fun _ => rfl
  | failPolls _ failingPolls ih => exact ih.of_layout (fun _ => rfl) fun _ => rfl
  | setDiskState _ name node number state ih =>
      exact ih.of_layout (sameOutside_setDiskState none name node number state _).find?_configs
        (layout?_setDiskState name node number state _)

end Cluster

/-! ## Storage covers configurations -/

/-- **A resource backs a configuration** if it has the name, the cluster-private volume and the data
volumes that the agents are about, and each placement lists just the defined volumes in order. -/
structure ClusterResource.Backs (r : ClusterResource) (name : String) (config : PromoterConfig) :
    Prop where
  name : r.definition.name = name
  privateVolume : ∃ d, r.volumes.find? 0 = some d ∧ d.number = 0 ∧ d.sizeKib = 65536
  dataVolumes : ∀ a ∈ config.agents, ∀ number, a.volumeNumber? = some number →
    ∃ d, r.volumes.find? number = some d ∧ d.number = number ∧ d.sizeKib ≠ 0
  ascending : r.volumes.keys.Pairwise (· < ·)
  placed : ∀ placement ∈ r.placements, placement.volumes.map (·.number) = r.volumes.keys

/-- A sound resource backs the configuration of an endpoint whose volumes it has. -/
lemma ClusterResource.Sound.backs {p : Protocol} {d : Endpoint p} {r : ClusterResource}
    {name : String} (h : r.Sound name) {placements : List Placement} {config : PromoterConfig}
    (hconfig : d.toPromoter placements = .ok config)
    (hcovered : ∀ v ∈ d.volumes, (r.volumes.find? v.number).isSome = true) :
    r.Backs name config where
  name := h.name
  privateVolume := by
    obtain ⟨v, hv, hsize⟩ := Option.map_eq_some_iff.1 h.privateVolume
    exact ⟨v, hv, (h.coherent.defined _ v hv).1, hsize⟩
  dataVolumes := fun a ha number hnumber => by
    obtain ⟨v, hv, rfl⟩ := Endpoint.exists_mem_volumes_of_volumeNumber? hconfig ha hnumber
    obtain ⟨definition, hdefinition⟩ := Option.isSome_iff_exists.1 (hcovered v hv)
    exact ⟨definition, hdefinition, h.coherent.defined _ definition hdefinition⟩
  ascending := SortedMap.ascending_keys r.volumes
  placed := h.coherent.placed

namespace Cluster

/-- **Storage covers every configuration.**  In every run of one protocol, a stored text is a
configuration that manages one resource, whose name its id shows, and this resource exists and backs
it. -/
theorem Reachable.exists_backs {p : Protocol} {c : Cluster} (hc : Reachable (· = p) c)
    {path : String} {text : ConfigText} (htext : c.configs.find? path = some text) :
    ∃ name config r, path = PromoterConfig.pathOf (p.tag ++ "-" ++ name)
      ∧ PromoterConfig.ofToml text.content = .ok config ∧ config.id = p.tag ++ "-" ++ name
      ∧ config.resources.keys = [name] ∧ c.resources.find? name = some r
      ∧ r.Backs name config := by
  obtain ⟨d, r, hpath, hr, hdescribes⟩ := hc.covered.described path text htext
  obtain ⟨config, hconfig, hcontent⟩ := hdescribes.written
  have hbelongs := PromoterConfig.belongs_of_toPromoter hconfig
  refine ⟨d.resourceName, config, r, hpath, ?_, hbelongs.hasId, ?_, hr,
    (hc.covered.sound _ r hr).backs hconfig hdescribes.covered⟩
  · rw [hcontent, hbelongs.reads]
  · obtain ⟨service, -, rfl⟩ := Endpoint.toPromoter_eq_ok_iff.1 hconfig
    rfl

/-- The text of the stopped subsystem is backed. -/
theorem exists_backs_stoppedCluster : ∃ path text,
    Operation.stoppedCluster.configs.find? path = some text
      ∧ ∃ name config r, path = PromoterConfig.pathOf (Protocol.nvmeof.tag ++ "-" ++ name)
        ∧ PromoterConfig.ofToml text.content = .ok config
        ∧ config.id = Protocol.nvmeof.tag ++ "-" ++ name ∧ config.resources.keys = [name]
        ∧ Operation.stoppedCluster.resources.find? name = some r ∧ r.Backs name config := by
  obtain ⟨-, config, r, -, hstands, -⟩ := Operation.stands_stoppedCluster
  exact ⟨_, _, hstands.text,
    Reachable.exists_backs (Operation.reachable_stoppedCluster rfl) hstands.text⟩

end Cluster

/-! ## Configurations are canonical -/

namespace Operation

variable {p : Protocol} {id : p.Identity} {c : Cluster} {e : Endpoint p}

/-- **What is reported is stored**: an endpoint that is reported is described by the text at its
path, over the resource of its name. -/
lemma describes_of_reported (hc : Covers id c) (he : reported id c = .ok (some e)) :
    ∃ stored r, found id c = .ok (some stored) ∧ Holds id stored.config c
      ∧ e.configId = Protocol.configId id
      ∧ Gateway.reconstruct p stored (Cluster.deployment (Protocol.resourceName id) c) = .ok e
      ∧ c.resources.find? (Protocol.resourceName id) = some r
      ∧ e.Describes stored.config.toToml r := by
  obtain ⟨stored?, hfound, he⟩ := bind_eq_ok_iff.1 he
  cases stored? with
  | none => cases he
  | some stored =>
      obtain ⟨e', hread, heq⟩ := map_eq_ok_iff.1 he
      cases heq
      have hholds : Holds id stored.config c := hc.found hfound
      obtain ⟨r, hr, hdescribes⟩ := hholds.describes_reconstruct hread
      exact ⟨stored, r, hfound, hholds, (configId_reconstruct hread).trans hholds.belongs.hasId,
        hread, hr, hdescribes⟩

/-- Adding a volume that a reported endpoint has with the same size only stores the endpoint
again. -/
lemma addVolume_of_reported (hc : Covers id c) (he : reported id c = .ok (some e)) {u v : Volume}
    (hu : u ∈ e.volumes) (hnumber : u.number = v.number) (hsize : u.sizeKib = v.sizeKib)
    (w : Waiter) : (gateway w).addVolume id v c = (.ok (some e), c.countConfigWrite) := by
  obtain ⟨stored, r, hfound, hholds, hid, hread, hr, hdescribes⟩ := describes_of_reported hc he
  obtain ⟨config, hconfig, hcontent⟩ := hdescribes.written
  have hcheck : Action.ofExcept (Volume.check [v]) c = (.ok (), c) := by
    have hok : Volume.check [v] = .ok () := by
      refine Volume.check_eq_ok_iff.2 ⟨fun v' hv' => ?_, List.nodup_singleton _⟩
      rw [List.mem_singleton.1 hv', ← hnumber, ← hsize]
      exact ⟨hdescribes.settled.numbers u hu, hdescribes.settled.sizes u hu⟩
    rw [hok]
    rfl
  have hload := load_apply w (p := p) stored (Protocol.resourceName id) c
  rw [hread, map_ok] at hload
  -- the volume is there, so the endpoint is stored with the placements that were read
  have hplacements : (Cluster.deployment (Protocol.resourceName id) c).placements
      = r.placements := by
    rw [Cluster.deployment, hr]
  have hwith : (gateway w).withVolume id e (Cluster.deployment (Protocol.resourceName id) c) v c
      = (.ok (e, r.placements), c) := by
    rw [Gateway.withVolume, ← hnumber, hdescribes.settled.find?_volumes hu, hplacements]
    simp only [hsize, if_true]
    rfl
  have hpath : config.path = PromoterConfig.pathOf (Protocol.configId id) :=
    congrArg PromoterConfig.pathOf
      ((PromoterConfig.belongs_of_toPromoter hconfig).hasId.trans hid)
  have hstore : (gateway w).store e r.placements "update" c = (.ok (), c.countConfigWrite) := by
    obtain ⟨text, htext, htextContent⟩ := Option.map_eq_some_iff.1 hholds.stored
    have hensure := Cluster.ensureConfig_of_find?_eq_some (by rw [hpath, htext])
      (htextContent.trans hcontent)
    rw [Gateway.store, hconfig]
    exact inPhase_apply_ok _ hensure
  rw [Gateway.addVolume, bind_apply_ok hcheck, bind_apply_ok (find_eq_ok w hfound)]
  simp only
  rw [bind_apply_ok hload, bind_apply_ok hwith, bind_apply_ok hstore, get_eq_reported, ← he]
  exact congrArg (·, c.countConfigWrite) (reported_congr rfl rfl rfl)

/-- **What is stored is the configuration of what is reported**, with the current placements, in
every run of one protocol.  Adding a volume that the endpoint has with the same size therefore
changes nothing but the count of writes. -/
theorem toPromoter_of_get (hc : Cluster.Reachable (· = p) c) (w : Waiter)
    (he : ((gateway w).get id c).1 = .ok (some e)) :
    (∃ text r config, c.configs.find? (PromoterConfig.pathOf (Protocol.configId id)) = some text
      ∧ c.resources.find? (Protocol.resourceName id) = some r
      ∧ e.toPromoter r.placements = .ok config ∧ text.content = config.toToml)
    ∧ ∀ (w' : Waiter) (v : Volume),
      (∃ u ∈ e.volumes, u.number = v.number ∧ u.sizeKib = v.sizeKib) →
        (gateway w').addVolume id v c = (.ok (some e), c.countConfigWrite) := by
  rw [get_eq_reported] at he
  have hcovers := hc.covered.covers id
  refine ⟨?_, fun w' v ⟨u, hu, hnumber, hsize⟩ =>
    addVolume_of_reported hcovers he hu hnumber hsize w'⟩
  obtain ⟨stored, r, -, hholds, -, -, hr, hdescribes⟩ := describes_of_reported hcovers he
  obtain ⟨text, htext, hcontent⟩ := Option.map_eq_some_iff.1 hholds.stored
  obtain ⟨config, hconfig, heq⟩ := hdescribes.written
  exact ⟨text, r, config, htext, hr, hconfig, hcontent.trans heq⟩

/-- The text of the stopped subsystem is the configuration of what is reported, and adding its
volume once more is only counted. -/
theorem exists_addVolume_stoppedCluster : ∃ e,
    ((gateway halfSecond).get dataNqn stoppedCluster).1 = .ok (some e)
      ∧ (∃ text r config,
        stoppedCluster.configs.find? (PromoterConfig.pathOf (Protocol.configId dataNqn)) = some text
          ∧ stoppedCluster.resources.find? (Protocol.resourceName dataNqn) = some r
          ∧ e.toPromoter r.placements = .ok config ∧ text.content = config.toToml)
      ∧ ∃ v ∈ e.volumes, (gateway halfSecond).addVolume dataNqn v stoppedCluster
        = (.ok (some e), stoppedCluster.countConfigWrite) := by
  obtain ⟨e, he, hvolumes, -⟩ := exists_reported_stoppedCluster
  obtain ⟨v, hv⟩ := List.exists_mem_of_ne_nil _ hvolumes
  have hget : ((gateway halfSecond).get dataNqn stoppedCluster).1 = .ok (some e) := by
    rw [get_eq_reported, he]
  obtain ⟨hstored, hadd⟩ := toPromoter_of_get (reachable_stoppedCluster rfl) halfSecond hget
  exact ⟨e, hget, hstored, v, hv, hadd halfSecond v ⟨v, hv, rfl, rfl⟩⟩

end Operation

end FailoverStorage

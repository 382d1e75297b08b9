import FailoverStorage.Proofs.Endpoint.Identity
import FailoverStorage.Proofs.Endpoint.Recovery
import FailoverStorage.Proofs.Gateway.Reachable

/-!
# Operations are confined to their endpoints

An operation on one endpoint touches the configuration at that endpoint's path and the resource of
its name, and nothing else (`Operation.confined_after`).

The invariant behind this: a stored text is a configuration of the id that its path shows, and
manages at most the resource of that name (`Cluster.OwnText`).  Without it, promoting or demoting
what a stored configuration lists could reach any resource.  Every run keeps it
(`Cluster.Reachable.ownTexts`).
-/

namespace FailoverStorage

open FailoverStorage.Action

/-! ## Configurations of one id -/

namespace PromoterConfig

/-- **A configuration belongs to an id and a name**: it has the id, manages at most the resource of
the name, and is what its document reads as. -/
structure Belongs (config : PromoterConfig) (id name : String) : Prop where
  hasId : config.id = id
  manages : Cluster.Manages config name
  reads : ofToml config.toToml = .ok config

/-- A configuration of one resource belongs to it, if its agents can be written. -/
lemma belongs_single {id name : String} {start : List Agent} (h : ∀ a ∈ start, a.Writable) :
    (single id name start).Belongs id name := by
  refine ⟨rfl, fun other hother => ?_, ofToml_toToml ?_⟩
  · rw [single, SortedMap.contains_iff] at hother
    obtain ⟨r, hr⟩ := hother
    rw [SortedMap.find?_insert] at hr
    split at hr
    · assumption
    · cases hr
  · rwa [Endpoint.agents_single]

lemma belongs_of_toPromoter {p : Protocol} {e : Endpoint p} {placements : List Placement}
    {config : PromoterConfig} (h : e.toPromoter placements = .ok config) :
    config.Belongs e.configId e.resourceName := by
  have hwritable := Endpoint.writable_of_mem_agents h
  obtain ⟨service, -, rfl⟩ := Endpoint.toPromoter_eq_ok_iff.1 h
  rw [Endpoint.agents_single] at hwritable
  exact belongs_single hwritable

/-- The configuration of an endpoint lists its resource. -/
lemma contains_of_toPromoter {p : Protocol} {e : Endpoint p} {placements : List Placement}
    {config : PromoterConfig} (h : e.toPromoter placements = .ok config) :
    config.resources.contains e.resourceName = true := by
  obtain ⟨service, -, rfl⟩ := Endpoint.toPromoter_eq_ok_iff.1 h
  exact SortedMap.contains_iff.2 ⟨_, (SortedMap.find?_insert _ _ _ _).trans (if_pos rfl)⟩

end PromoterConfig

namespace Cluster

/-- The text of an id, if there is one, is a configuration that belongs to it and to a name. -/
def OwnText (id name : String) (c : Cluster) : Prop :=
  ∀ text, c.configs.find? (PromoterConfig.pathOf id) = some text →
    ∃ config : PromoterConfig, config.Belongs id name ∧ text.content = config.toToml

/-- **A step confined to an id and a name**: it differs from `s` nowhere else, and leaves a text
that belongs to them. -/
def Confined (id name : String) (s t : Cluster) : Prop :=
  SameOutside (some (PromoterConfig.pathOf id)) name s t ∧ OwnText id name t

variable {id name : String} {s t u : Cluster} {α : Type}

/-! ## Actions on one endpoint -/

/-- Changes of storage leave every text. -/
lemma Confined.of_storage (h : Confined id name s t) (h' : SameOutside none name t u) :
    Confined id name s u := by
  refine ⟨h.1.trans ⟨h'.nodes, h'.groups, h'.transitionPolls, h'.stalled, h'.resources,
    fun other _ => h'.find?_configs other⟩, fun text htext => h.2 text ?_⟩
  rwa [h'.find?_configs] at htext

lemma keeps_confined_of_storage {a : Action Cluster α} (h : ∀ t, SameOutside none name t (a t).2) :
    Keeps (Confined id name s) a :=
  Triple.of_state fun t ht => ht.of_storage (h t)

/-- What is stored belongs to the id if it is the text of a configuration that does. -/
lemma ownText_insert {config : PromoterConfig} (h : config.Belongs id name) {attached : Bool}
    (ht : t.configs = s.configs.insert config.path { content := config.toToml, attached }) :
    OwnText id name t := by
  intro text htext
  obtain rfl := h.hasId
  rw [ht, PromoterConfig.path, SortedMap.find?_insert, if_pos rfl] at htext
  cases htext
  exact ⟨config, h, rfl⟩

lemma keeps_confined_ensureConfig {config : PromoterConfig} (h : config.Belongs id name) :
    Keeps (Confined id name s) (ensureConfig config) := by
  refine Triple.of_state fun t ht =>
    ⟨ht.1.trans ?_, ownText_insert h (configs_ensureConfig config t)⟩
  exact sameOutside_ensureConfig (congrArg PromoterConfig.pathOf h.hasId) name t

lemma keeps_confined_attach {config : PromoterConfig} (h : config.Belongs id name) :
    Keeps (Confined id name s) (attach config) := by
  refine Triple.of_state fun t ht => ⟨ht.1.trans ?_, ownText_insert h (configs_attach config t)⟩
  exact sameOutside_attach (congrArg PromoterConfig.pathOf h.hasId) h.manages t

lemma keeps_confined_detach {config : PromoterConfig} (h : config.Belongs id name) :
    Keeps (Confined id name s) (detach config) := by
  refine Triple.of_state fun t ht => ⟨ht.1.trans ?_, fun text htext => ?_⟩
  · exact sameOutside_detach (congrArg PromoterConfig.pathOf h.hasId) h.manages t
  · have hcontent := content_detach config t (PromoterConfig.pathOf id)
    rw [htext, Option.map_some] at hcontent
    obtain ⟨old, hold, heq⟩ := Option.map_eq_some_iff.1 hcontent.symm
    obtain ⟨stored, hstored, hread⟩ := ht.2 old hold
    exact ⟨stored, hstored, by rw [← heq, hread]⟩

lemma keeps_confined_deleteConfig : Keeps (Confined id name s) (deleteConfig id) := by
  refine Triple.of_state fun t ht => ⟨ht.1.trans ?_, fun text htext => ?_⟩
  · refine sameOutside_deleteConfig t fun text config htext hread => ?_
    obtain ⟨stored, hstored, hcontent⟩ := ht.2 text htext
    rw [hcontent, hstored.reads] at hread
    cases hread
    exact hstored.manages
  · rw [deleteConfig_apply, find?_withoutConfig] at htext
    cases htext

/-- What is found belongs to the id. -/
lemma triple_confined_findConfig :
    Triple (Confined id name s) (findConfig id)
      (fun found t => (∀ stored, found = some stored → stored.config.Belongs id name)
        ∧ Confined id name s t) (Confined id name s) := by
  intro t ht
  rw [findConfig_apply]
  refine ⟨fun found u hrun => ?_, fun err u hrun => ?_⟩
  · obtain ⟨hfound, rfl⟩ := Prod.mk.inj hrun
    refine ⟨fun stored hstored => ?_, ht⟩
    subst hstored
    cases htext : t.configs.find? (PromoterConfig.pathOf id) with
    | none =>
        rw [htext] at hfound
        cases hfound
    | some text =>
        obtain ⟨config, hconfig, hcontent⟩ := ht.2 text htext
        rw [htext, readStored, hcontent, hconfig.reads] at hfound
        cases hfound
        exact hconfig
  · obtain ⟨-, rfl⟩ := Prod.mk.inj hrun
    exact ht

end Cluster

/-! ## Operations on one endpoint -/

namespace Operation

variable {p : Protocol} {id : p.Identity} {s : Cluster} (w : Waiter)

/-- Confined to the configuration and the resource of one endpoint. -/
abbrev Within (id : p.Identity) (s : Cluster) : Cluster → Prop :=
  Cluster.Confined (Protocol.configId id) (Protocol.resourceName id) s

lemma keeps_within_placements :
    Keeps (Within id s) (Cluster.placements (Protocol.resourceName id)) :=
  Cluster.keeps_confined_of_storage fun t => Cluster.sameOutside_placements none _ t

lemma triple_within_find :
    Triple (Within id s) ((gateway w).find id)
      (fun found t => (∀ stored, found = some stored →
        stored.config.Belongs (Protocol.configId id) (Protocol.resourceName id))
          ∧ Within id s t) (Within id s) :=
  Triple.inPhase _ Cluster.triple_confined_findConfig

lemma keeps_within_start : Keeps (Within id s) ((gateway w).start id) :=
  keeps_switch w (triple_within_find w) (fun _ h => h.2)
    (fun stored => Triple.of_forall fun h => Cluster.keeps_confined_attach (h stored rfl))
    keeps_within_placements _ _ _

lemma keeps_within_stop : Keeps (Within id s) ((gateway w).stop id) :=
  keeps_switch w (triple_within_find w) (fun _ h => h.2)
    (fun stored => Triple.of_forall fun h => Cluster.keeps_confined_detach (h stored rfl))
    keeps_within_placements _ _ _

lemma keeps_within_store (e : Endpoint p) (he : e.configId = Protocol.configId id)
    (placements : List Placement) (verb : String) :
    Keeps (Within id s) ((gateway w).store e placements verb) := by
  have hname : e.resourceName = Protocol.resourceName id := (Protocol.configId_inj he).2
  refine Triple.bind (Triple.ofExcept (Q := fun config t =>
    config.Belongs (Protocol.configId id) (Protocol.resourceName id) ∧ Within id s t)
      (fun config t hconfig ht => ⟨?_, ht⟩) fun _ h => h) fun config => ?_
  · rw [← he, ← hname]
    exact PromoterConfig.belongs_of_toPromoter hconfig
  · exact Triple.of_forall fun h => Triple.inPhase _ (Cluster.keeps_confined_ensureConfig h)

lemma keeps_within_ensure {request : ResourceRequest} (h : request.name = Protocol.resourceName id)
    (mayExtend : Bool) : Keeps (Within id s) (Cluster.ensureResource request mayExtend) :=
  Cluster.keeps_confined_of_storage fun t => by
    rw [← h]
    exact Cluster.sameOutside_ensureResource none request mayExtend t

lemma configId_reconstruct {stored : StoredConfig} {deployed : DeployedState} {e : Endpoint p}
    (h : Gateway.reconstruct p stored deployed = .ok e) : e.configId = stored.config.id := by
  obtain ⟨b, hread, heq⟩ := exists_ofPromoter_of_reconstruct h
  have hid := Endpoint.configId_ofPromoter hread
  rw [heq]
  exact hid

/-- What is loaded has the id of its configuration. -/
lemma triple_load {σ : Type} {g : Gateway σ} {P : σ → Prop} (h : g.backend.ReadsKeep P)
    (stored : StoredConfig) (resource : String) :
    Triple P (g.load p stored resource)
      (fun x t => x.1.configId = stored.config.id ∧ P t) P := by
  refine Triple.bind (Triple.inPhase _ (h.deployed resource)) fun deployed => ?_
  refine Triple.bind (Triple.ofExcept (Q := fun e t => e.configId = stored.config.id ∧ P t)
    (fun e t he ht => ⟨configId_reconstruct he, ht⟩) fun _ h => h) fun e => ?_
  exact Triple.pure fun _ h => h

lemma keeps_within_create (requested : Endpoint p) :
    Keeps (Within requested.identity s) ((gateway w).create requested) := by
  refine Triple.bind ((readOnly_ofExcept _).keeps _) fun _ => ?_
  refine Triple.bind ((readOnly_checkExclusive w _).keeps _) fun _ => ?_
  refine Triple.bind ((readOnly_find w _).keeps _) fun found => ?_
  cases found with
  | some stored => exact (readOnly_existing w stored _ _).keeps _
  | none =>
      refine Triple.bind (Triple.inPhase _ (keeps_within_ensure rfl false)) fun deployment => ?_
      refine Triple.bind (keeps_within_store w requested.fillDefaults rfl _ _) fun _ => ?_
      refine Triple.bind (keeps_within_start w) fun started => ?_
      cases started with
      | some e => exact (readOnly_pure _).keeps _
      | none => exact (readOnly_throw _).keeps _

lemma keeps_within_delete : Keeps (Within id s) ((gateway w).delete id) := by
  refine Triple.bind (Triple.inPhase _ Cluster.keeps_confined_deleteConfig) fun _ => ?_
  refine Triple.bind (Gateway.keeps_await keeps_within_placements _ _) fun _ => Triple.inPhase _ ?_
  refine Triple.orAbsent (Cluster.keeps_confined_of_storage fun t => ?_) (fun _ h => h) fun _ h => h
  exact Cluster.sameOutside_deleteResource none _ t

lemma triple_within_withVolume {e : Endpoint p} (he : e.configId = Protocol.configId id)
    (deployed : DeployedState) (v : Volume) :
    Triple (Within id s) ((gateway w).withVolume id e deployed v)
      (fun x t => x.1.configId = Protocol.configId id ∧ Within id s t) (Within id s) := by
  rw [Gateway.withVolume]
  split
  · split
    · exact Triple.pure fun _ h => ⟨he, h⟩
    · exact Triple.throw fun _ h => h
  · split
    · exact Triple.throw fun _ h => h
    · have hname : e.resourceName = Protocol.resourceName id := (Protocol.configId_inj he).2
      refine Triple.bind ((readOnly_ofExcept _).keeps _) fun _ => ?_
      refine Triple.bind (Triple.inPhase _ (keeps_within_ensure hname true)) fun deployment => ?_
      exact Triple.pure fun _ h => ⟨he, h⟩

lemma keeps_within_addVolume (v : Volume) :
    Keeps (Within id s) ((gateway w).addVolume id v) := by
  refine Triple.bind ((readOnly_ofExcept _).keeps _) fun _ => ?_
  refine Triple.bind (triple_within_find w) fun found => Triple.of_forall fun hfound => ?_
  cases found with
  | none => exact (readOnly_pure _).keeps _
  | some stored =>
      refine Triple.bind (triple_load (readsKeep_gateway w _) stored _) fun x =>
        Triple.of_forall fun hx => ?_
      have hid := hx.trans (hfound stored rfl).hasId
      refine Triple.bind (triple_within_withVolume w hid _ v) fun y => Triple.of_forall fun hy => ?_
      exact Triple.bind (keeps_within_store w y.1 hy _ _) fun _ => (readOnly_get w id).keeps _

lemma keeps_within_deleteVolume (number : UInt32) :
    Keeps (Within id s) ((gateway w).deleteVolume id number) := by
  rw [Gateway.deleteVolume]
  split
  · exact (readOnly_throw _).keeps _
  refine Triple.bind (triple_within_find w) fun found => Triple.of_forall fun hfound => ?_
  cases found with
  | none => exact (readOnly_pure _).keeps _
  | some stored =>
      refine Triple.bind (triple_load (readsKeep_gateway w _) stored _) fun x =>
        Triple.of_forall fun hx => ?_
      have hid := hx.trans (hfound stored rfl).hasId
      simp only
      split
      · exact (readOnly_throw _).keeps _
      refine Triple.bind (Triple.inPhase _ (Triple.orAbsent
        (Cluster.keeps_confined_of_storage fun t => Cluster.sameOutside_deleteVolume none _ _ t)
          (fun _ h => h) fun _ h => h)) fun _ => ?_
      exact Triple.bind (keeps_within_store w (x.1.withoutVolume number) hid _ _) fun _ =>
        (readOnly_get w id).keeps _

/-- **An operation is confined to its endpoint.** -/
theorem confined_after (op : Operation p) (hop : op.identity? = some id) {c : Cluster}
    (hc : Cluster.OwnText (Protocol.configId id) (Protocol.resourceName id) c) :
    Within id c (op.after w c) := by
  have hstart : Within id c c := ⟨.refl _ _ _, hc⟩
  cases op with
  | list => cases hop
  | get id =>
      cases hop
      exact ((readOnly_get w id).keeps _).state hstart
  | create requested =>
      cases hop
      exact (keeps_within_create w requested).state hstart
  | start id =>
      cases hop
      exact (keeps_within_start w).state hstart
  | stop id =>
      cases hop
      exact (keeps_within_stop w).state hstart
  | delete id =>
      cases hop
      exact (keeps_within_delete w).state hstart
  | addVolume id v =>
      cases hop
      exact (keeps_within_addVolume w v).state hstart
  | deleteVolume id number =>
      cases hop
      exact (keeps_within_deleteVolume w number).state hstart

end Operation

/-! ## Runs -/

namespace Cluster

/-- Every stored text belongs to the endpoint at whose path it is. -/
def OwnTexts (c : Cluster) : Prop :=
  ∀ (p : Protocol) (id : p.Identity), OwnText (Protocol.configId id) (Protocol.resourceName id) c

lemma OwnTexts.of_configs {s t : Cluster} (h : OwnTexts s)
    (hconfigs : ∀ path, t.configs.find? path = s.configs.find? path) : OwnTexts t := by
  intro p id text htext
  rw [hconfigs] at htext
  exact h p id text htext

/-- A step within one endpoint leaves its own text in order and does not touch the others. -/
lemma OwnTexts.of_within {p : Protocol} {id : p.Identity} {s t : Cluster} (h : OwnTexts s)
    (hwithin : Operation.Within id s t) : OwnTexts t := by
  obtain ⟨hsame, hown⟩ := hwithin
  intro q other
  by_cases hid : Protocol.configId other = Protocol.configId id
  · rw [hid, (Protocol.configId_inj hid).2]
    exact hown
  · intro text htext
    rw [hsame.configs _ fun heq =>
      hid (PromoterConfig.pathOf_inj (Option.some.inj heq))] at htext
    exact h q other text htext

lemma OwnTexts.after {p : Protocol} {c : Cluster} (h : OwnTexts c) (w : Waiter)
    (op : Operation p) : OwnTexts (op.after w c) := by
  cases hop : op.identity? with
  | none => rwa [Operation.after_of_identity?_eq_none w hop]
  | some id => exact h.of_within (op.confined_after w hop (h p id))

/-- **In every run each stored text belongs to the endpoint at whose path it is.** -/
theorem Reachable.ownTexts {allowed : Protocol → Prop} {c : Cluster} (h : Reachable allowed c) :
    OwnTexts c := by
  induction h with
  | fresh nodes groups polls hgroups =>
      intro p id text htext
      cases htext
  | operate _ _ op w ih => exact ih.after w op
  | stall _ stalled ih => exact ih
  | failPolls _ failingPolls ih => exact ih
  | setDiskState _ name node number state ih =>
      exact ih.of_configs (sameOutside_setDiskState none name node number state _).find?_configs

end Cluster

end FailoverStorage

import FailoverStorage.Proofs.Cluster.Ensuring
import FailoverStorage.Proofs.Endpoint.Legibility
import FailoverStorage.Proofs.Gateway.Coverage

/-!
# Where stored texts come from

In a run of all protocols the resource of an endpoint can change under its configuration, since
endpoints of other protocols may share it.  What every run keeps is this (`Cluster.Rooted`):

* each stored text was written for a request that was asked to be created, and the endpoint in it
  has the identity and the initiators of that request (`WrittenFor`);
* each resource is sound, and what its definition records are settings from which an export can be
  read.

Both parts can be checked call by call, because neither depends on the other: what is read back of
such a text has a good shape whatever is deployed (`Endpoint.ofPromoter_cases`), and storing it
again keeps its identity and its initiators.

`Cluster.ReachableBy asked` are the runs in which only certain requests are asked for.  The result
for all of them is `Cluster.ReachableBy.rooted`.
-/

namespace FailoverStorage

open FailoverStorage.Action

/-! ## Runs with given requests -/

namespace Cluster

/-- **The states of a cluster** on which gateways of all protocols act and only certain endpoints
are asked to be created. -/
inductive ReachableBy (asked : (p : Protocol) → Endpoint p → Prop) : Cluster → Prop where
  /-- A fresh cluster has any nodes and any groups, each group under its name. -/
  | fresh (nodes : List String) (groups : SortedMap String ResourceGroup) (transitionPolls : Nat)
      (hgroups : ∀ name group, groups.find? name = some group → group.name = name) :
      ReachableBy asked { nodes, groups, transitionPolls }
  | operate {c : Cluster} {p : Protocol} (hc : ReachableBy asked c) (op : Operation p)
      (hop : ∀ requested, op = .create requested → asked p requested) (w : Waiter) :
      ReachableBy asked (op.after w c)
  /-- Transitions stand still, or go on. -/
  | stall {c : Cluster} (hc : ReachableBy asked c) (stalled : Bool) :
      ReachableBy asked { c with stalled }
  /-- Reads of placements will fail. -/
  | failPolls {c : Cluster} (hc : ReachableBy asked c) (failingPolls : Nat) :
      ReachableBy asked { c with failingPolls }
  | setDiskState {c : Cluster} (hc : ReachableBy asked c) (name node : String) (number : UInt32)
      (state : DiskState) : ReachableBy asked (setDiskState name node number state c).2

variable {asked : (p : Protocol) → Endpoint p → Prop} {c : Cluster}

/-- A run with given requests is a run. -/
lemma ReachableBy.reachable (h : ReachableBy asked c) : Reachable (fun _ => True) c := by
  induction h with
  | fresh nodes groups polls hgroups => exact .fresh nodes groups polls hgroups
  | operate _ op _ w ih => exact .operate ih trivial op w
  | stall _ stalled ih => exact .stall ih stalled
  | failPolls _ failingPolls ih => exact .failPolls ih failingPolls
  | setDiskState _ name node number state ih => exact .setDiskState ih name node number state

/-- Every run is one in which anything may be asked for. -/
lemma Reachable.reachableBy {allowed : Protocol → Prop} (h : Reachable allowed c) :
    ReachableBy (fun _ _ => True) c := by
  induction h with
  | fresh nodes groups polls hgroups => exact .fresh nodes groups polls hgroups
  | operate _ _ op w ih => exact .operate ih op (fun _ _ => trivial) w
  | stall _ stalled ih => exact .stall ih stalled
  | failPolls _ failingPolls ih => exact .failPolls ih failingPolls
  | setDiskState _ name node number state ih => exact .setDiskState ih name node number state

/-- No step changes the groups, so each stays under its name. -/
lemma Reachable.name_of_find?_groups {allowed : Protocol → Prop} (h : Reachable allowed c)
    {name : String} {group : ResourceGroup} (hgroup : c.groups.find? name = some group) :
    group.name = name := by
  induction h with
  | fresh nodes groups polls hgroups => exact hgroups name group hgroup
  | operate hc _ op w ih =>
      cases hop : op.identity? with
      | none =>
          rw [Operation.after_of_identity?_eq_none w hop] at hgroup
          exact ih hgroup
      | some id =>
          rw [(op.confined_after w hop (hc.ownTexts _ id)).1.groups] at hgroup
          exact ih hgroup
  | stall _ stalled ih => exact ih hgroup
  | failPolls _ failingPolls ih => exact ih hgroup
  | setDiskState _ name node number state ih =>
      rw [(sameOutside_setDiskState none name node number state _).groups] at hgroup
      exact ih hgroup

end Cluster

/-! ## Endpoints of a request -/

/-- **An endpoint stems from a request**: it has a good shape, and the identity and the initiators
that were asked for. -/
structure Endpoint.StemsFrom {p : Protocol} (e requested : Endpoint p) : Prop where
  shaped : e.Shaped
  identity : e.identity = requested.identity
  initiators : Endpoint.initiators e.settings = Endpoint.initiators requested.settings

/-- **A configuration stems from a request**: it is that of an endpoint which does. -/
def PromoterConfig.StemsFrom {p : Protocol} (config : PromoterConfig) (requested : Endpoint p) :
    Prop :=
  ∃ (e : Endpoint p) (placements : List Placement),
    e.StemsFrom requested ∧ e.toPromoter placements = .ok config

/-- A configuration was written for some request of an id. -/
def WrittenFor (asked : (p : Protocol) → Endpoint p → Prop) (id : String)
    (config : PromoterConfig) : Prop :=
  ∃ (p : Protocol) (requested : Endpoint p),
    asked p requested ∧ requested.configId = id ∧ config.StemsFrom requested

section

variable {asked : (p : Protocol) → Endpoint p → Prop} {p : Protocol} {id : p.Identity}
  {config : PromoterConfig} {e requested : Endpoint p}

lemma Endpoint.StemsFrom.configId (h : e.StemsFrom requested) :
    e.configId = requested.configId := by
  rw [Endpoint.configId, Endpoint.configId, h.identity]

lemma Endpoint.StemsFrom.resourceName (h : e.StemsFrom requested)
    (hid : requested.configId = Protocol.configId id) :
    e.resourceName = Protocol.resourceName id :=
  (Protocol.configId_inj (h.configId.trans hid)).2

/-- A completed request that passes its check stems from the request. -/
lemma Endpoint.stemsFrom_fillDefaults (h : requested.fillDefaults.validate = .ok ()) :
    requested.fillDefaults.StemsFrom requested :=
  ⟨(Endpoint.settled_fillDefaults h).shaped, rfl, by
    cases p with
    | iscsi => rfl
    | nfs => rfl
    | nvmeof => rfl⟩

lemma PromoterConfig.StemsFrom.belongs (h : config.StemsFrom requested) :
    config.Belongs requested.configId requested.resourceName := by
  obtain ⟨e, placements, hstems, hconfig⟩ := h
  rw [← hstems.configId, Endpoint.resourceName, ← hstems.identity]
  exact belongs_of_toPromoter hconfig

/-- **What is read of a configuration that stems from a request** stems from it, too, unless an
initiator contains a blank and nothing can be read. -/
lemma PromoterConfig.StemsFrom.ofPromoter_cases (h : config.StemsFrom requested)
    {definition : Option ResourceDefinition}
    (hlegible : ∀ d, definition = some d → Endpoint.LegibleProperties d.properties)
    (volumeDefinitions : List VolumeDefinition) :
    ((∀ iqn ∈ Endpoint.initiators requested.settings, Text.IsBlankFree iqn.text)
        ∧ ∃ b, Endpoint.ofPromoter p config definition volumeDefinitions = .ok b
          ∧ b.StemsFrom requested)
      ∨ (¬ ∀ iqn ∈ Endpoint.initiators requested.settings, Text.IsBlankFree iqn.text)
        ∧ ∃ err, Endpoint.ofPromoter p config definition volumeDefinitions = .error err := by
  obtain ⟨e, placements, hstems, hconfig⟩ := h
  obtain ⟨d, hsettled, hidentity, -, hsettings, -, hsame⟩ := hstems.shaped.exists_settled
  rw [← hsame] at hconfig
  rw [← hstems.initiators, ← hsettings]
  rcases Endpoint.ofPromoter_cases hsettled hconfig hlegible volumeDefinitions with
    ⟨hblank, b, hb, hshaped, hb₁, hb₂⟩ | ⟨hblank, herr⟩
  · refine .inl ⟨hblank, b, hb, hshaped, hb₁.trans (hidentity.trans hstems.identity), ?_⟩
    rw [hb₂, hsettings, hstems.initiators]
  · exact .inr ⟨hblank, herr⟩

/-- The request for which a configuration was written is of the protocol that its id shows. -/
lemma WrittenFor.exists_request (h : WrittenFor asked (Protocol.configId id) config) :
    ∃ requested : Endpoint p, asked p requested ∧ requested.configId = Protocol.configId id
      ∧ config.StemsFrom requested := by
  obtain ⟨q, requested, hasked, hid, hstems⟩ := h
  obtain rfl : q = p := (Protocol.configId_inj hid).1
  exact ⟨requested, hasked, hid, hstems⟩

lemma WrittenFor.belongs (h : WrittenFor asked (Protocol.configId id) config) :
    config.Belongs (Protocol.configId id) (Protocol.resourceName id) := by
  obtain ⟨requested, -, hid, hstems⟩ := h.exists_request
  rw [← hid, ← (Protocol.configId_inj hid).2]
  exact hstems.belongs

end

/-! ## Resources in order -/

namespace Cluster

/-- **A resource is in order** if it is sound and an export can be read from what its definition
records. -/
structure InOrder (name : String) (r : ClusterResource) : Prop where
  sound : r.Sound name
  legible : Endpoint.LegibleProperties r.definition.properties

/-- What exists under a name is in order. -/
def OrderAt (name : String) (c : Cluster) : Prop :=
  ∀ r, c.resources.find? name = some r → InOrder name r

/-- Order shows in the layout. -/
lemma OrderAt.of_layout {name : String} {s t : Cluster} (h : OrderAt name s)
    (hlayout : t.layout? name = s.layout? name) : OrderAt name t := by
  intro r hr
  obtain ⟨r₀, hr₀, heq⟩ := exists_of_layout?_eq hlayout hr
  obtain ⟨hsound, hlegible⟩ := h r₀ hr₀
  refine ⟨hsound.of_layout heq, ?_⟩
  rwa [(ClusterResource.layout_eq_iff.1 heq).1]

/-- **Ensuring a complete resource** with properties that can be read keeps it in order. -/
lemma OrderAt.ensureResource {request : ResourceRequest} {s : Cluster}
    (h : OrderAt request.name s) (hcomplete : request.Complete)
    (hlegible : Endpoint.LegibleProperties request.properties) (mayExtend : Bool) :
    OrderAt request.name (Cluster.ensureResource request mayExtend s).2 := by
  rcases ensureResource_cases hcomplete (fun r hr => (h r hr).sound) mayExtend with
    ⟨err, hrun⟩ | ⟨result, t, r, hrun, hr, hensured, -⟩
  · rw [hrun]
    exact h
  rcases ensureResource_find? request mayExtend s with
    ⟨err, herr⟩ | ⟨group, missing, r', -, -, hr', hdefinition, -⟩
  · rw [herr]
    exact h
  rw [hrun] at hr' ⊢
  cases hr.symm.trans hr'
  -- what is recorded is requested or was recorded before
  have hrecorded : ∀ key value, r.definition.properties.find? key = some value →
      request.properties.find? key = some value
        ∨ ∃ r₀, s.resources.find? request.name = some r₀
          ∧ r₀.definition.properties.find? key = some value := fun key value hkey => by
    rw [hdefinition] at hkey
    rcases ResourceRequest.find?_properties_definitionFrom hkey with hkey | ⟨d, hd, hkey⟩
    · exact .inl hkey
    · obtain ⟨r₀, hr₀, rfl⟩ := Option.map_eq_some_iff.1 hd
      exact .inr ⟨r₀, hr₀, hkey⟩
  intro r' hr'
  cases hr.symm.trans hr'
  refine ⟨hensured.sound, fun path hpath => ?_, fun text htext => ?_⟩
  · rcases hrecorded _ _ hpath with hpath | ⟨r₀, hr₀, hpath⟩
    · exact hlegible.path path hpath
    · exact (h r₀ hr₀).legible.path path hpath
  · rcases hrecorded _ _ htext with htext | ⟨r₀, hr₀, htext⟩
    · exact hlegible.networks text htext
    · exact (h r₀ hr₀).legible.networks text htext

end Cluster

/-! ## Calls on one endpoint -/

namespace Operation

variable {asked : (p : Protocol) → Endpoint p → Prop} {p : Protocol} {id : p.Identity}
  {s t : Cluster}

/-- **An endpoint is rooted in a request** if its text was written for one, and its resource is in
order. -/
structure Rooted (asked : (p : Protocol) → Endpoint p → Prop) (id : p.Identity) (c : Cluster) :
    Prop where
  ordered : Cluster.OrderAt (Protocol.resourceName id) c
  written : ∀ text, c.configs.find? (PromoterConfig.pathOf (Protocol.configId id)) = some text →
    ∃ config, WrittenFor asked (Protocol.configId id) config ∧ text.content = config.toToml

/-- Being rooted shows in the text and in the layout. -/
lemma Rooted.of_layout (h : Rooted asked id s)
    (htext : (t.configs.find? (PromoterConfig.pathOf (Protocol.configId id))).map (·.content)
      = (s.configs.find? (PromoterConfig.pathOf (Protocol.configId id))).map (·.content))
    (hlayout : t.layout? (Protocol.resourceName id) = s.layout? (Protocol.resourceName id)) :
    Rooted asked id t := by
  refine ⟨h.ordered.of_layout hlayout, fun text ht => ?_⟩
  rw [ht, Option.map_some] at htext
  obtain ⟨old, hold, hcontent⟩ := Option.map_eq_some_iff.1 htext.symm
  obtain ⟨config, hwritten, heq⟩ := h.written old hold
  exact ⟨config, hwritten, hcontent.symm.trans heq⟩

/-- A text that was written for a request takes the place of another. -/
lemma Rooted.of_insert (h : Rooted asked id s) {config : PromoterConfig}
    (hconfig : WrittenFor asked (Protocol.configId id) config) {attached : Bool}
    (hconfigs : t.configs = s.configs.insert config.path { content := config.toToml, attached })
    (hlayout : t.layout? (Protocol.resourceName id) = s.layout? (Protocol.resourceName id)) :
    Rooted asked id t := by
  refine ⟨h.ordered.of_layout hlayout, fun text htext => ?_⟩
  rw [hconfigs, PromoterConfig.path, hconfig.belongs.hasId, SortedMap.find?_insert,
    if_pos rfl] at htext
  cases htext
  exact ⟨config, hconfig, rfl⟩

lemma keeps_rooted_placements :
    Keeps (Rooted asked id) (Cluster.placements (Protocol.resourceName id)) := by
  refine Triple.of_state fun c hc => ?_
  have hsame := Cluster.sameOutside_placements none (Protocol.resourceName id) c
  exact hc.of_layout (by rw [hsame.find?_configs]) (Cluster.layout?_placements _ _ c)

lemma keeps_rooted_ensureConfig {config : PromoterConfig}
    (h : WrittenFor asked (Protocol.configId id) config) :
    Keeps (Rooted asked id) (Cluster.ensureConfig config) :=
  Triple.of_state fun c hc => hc.of_insert h (Cluster.configs_ensureConfig config c) rfl

lemma keeps_rooted_attach {config : PromoterConfig}
    (h : WrittenFor asked (Protocol.configId id) config) :
    Keeps (Rooted asked id) (Cluster.attach config) :=
  Triple.of_state fun c hc =>
    hc.of_insert h (Cluster.configs_attach config c) (Cluster.layout?_schedule config true c _)

lemma keeps_rooted_detach (config : PromoterConfig) :
    Keeps (Rooted asked id) (Cluster.detach config) :=
  Triple.of_state fun c hc =>
    hc.of_layout (Cluster.content_detach config c _) (Cluster.layout?_detach config c _)

lemma keeps_rooted_deleteConfig :
    Keeps (Rooted asked id) (Cluster.deleteConfig (Protocol.configId id)) := by
  refine Triple.of_state fun c hc =>
    ⟨hc.ordered.of_layout (Cluster.layout?_withoutConfig _ c _), fun text htext => ?_⟩
  rw [Cluster.deleteConfig_apply, Cluster.find?_withoutConfig] at htext
  cases htext

lemma keeps_rooted_deleteResource :
    Keeps (Rooted asked id) (Cluster.deleteResource (Protocol.resourceName id)) := by
  refine Triple.of_state fun c hc => ?_
  rcases Cluster.deleteResource_cases (Protocol.resourceName id) c with ⟨-, err, h⟩ | ⟨r, -, -, h⟩
  · rw [h]
    exact hc
  · rw [h]
    refine ⟨fun r' hr' => ?_, hc.written⟩
    simp [Cluster.countStorageWrite] at hr'

lemma keeps_rooted_removeVolume {number : UInt32} (hnumber : number ≠ Volume.privateNumber) :
    Keeps (Rooted asked id) (Cluster.deleteVolume (Protocol.resourceName id) number) := by
  refine Triple.of_state fun c hc => ?_
  rcases Cluster.deleteVolume_cases (Protocol.resourceName id) number c with
    ⟨-, err, h⟩ | ⟨r, hr, -, h⟩
  · rw [h]
    exact hc
  · rw [h]
    refine ⟨fun r' hr' => ?_, hc.written⟩
    have hchanged := (Cluster.find?_changeResource c (Protocol.resourceName id)
      (Protocol.resourceName id) (Cluster.removeVolume number)).symm.trans hr'
    rw [if_pos rfl, hr] at hchanged
    cases hchanged
    obtain ⟨hsound, hlegible⟩ := hc.ordered r hr
    exact ⟨hsound.removeVolume hnumber, hlegible⟩

lemma keeps_rooted_ensure {e : Endpoint p} (he : e.Settled)
    (hname : e.resourceName = Protocol.resourceName id) (mayExtend : Bool) :
    Keeps (Rooted asked id)
      (Cluster.ensureResource (Gateway.resourceRequest e) mayExtend) := by
  refine Triple.of_state fun c hc => ⟨?_, fun text htext => hc.written text ?_⟩
  · have hordered : Cluster.OrderAt (Gateway.resourceRequest e).name c := by
      rw [show (Gateway.resourceRequest e).name = _ from hname]
      exact hc.ordered
    rw [← hname]
    exact hordered.ensureResource he.complete he.legibleProperties mayExtend
  · rw [← htext]
    exact ((Cluster.sameOutside_ensureResource none (Gateway.resourceRequest e) mayExtend
      c).find?_configs _).symm

/-! ## Reading -/

variable (w : Waiter)

/-- What is found was written for a request. -/
lemma Rooted.writtenFor_found (h : Rooted asked id s) {stored : StoredConfig}
    (hfound : found id s = .ok (some stored)) :
    WrittenFor asked (Protocol.configId id) stored.config := by
  cases htext : s.configs.find? (PromoterConfig.pathOf (Protocol.configId id)) with
  | none =>
      rw [found, htext] at hfound
      cases hfound
  | some text =>
      obtain ⟨config, hwritten, hcontent⟩ := h.written text htext
      rw [found, htext, Cluster.readStored, hcontent, hwritten.belongs.reads] at hfound
      cases hfound
      exact hwritten

lemma triple_rooted_find : Triple (Rooted asked id) ((gateway w).find id)
    (fun stored? c => (∀ stored, stored? = some stored →
      WrittenFor asked (Protocol.configId id) stored.config) ∧ Rooted asked id c)
    (Rooted asked id) := by
  intro c hc
  rw [find_apply]
  refine ⟨fun stored? t hrun => ?_, fun err t hrun => ?_⟩
  · obtain ⟨hfound, rfl⟩ := Prod.mk.inj hrun
    refine ⟨fun stored hstored => ?_, hc⟩
    subst hstored
    exact hc.writtenFor_found hfound
  · obtain ⟨-, rfl⟩ := Prod.mk.inj hrun
    exact hc

/-- What is deployed for an endpoint can be read. -/
lemma Rooted.legible_deployment (h : Rooted asked id s) {d : ResourceDefinition}
    (hd : (Cluster.deployment (Protocol.resourceName id) s).definition = some d) :
    Endpoint.LegibleProperties d.properties := by
  rw [Cluster.deployment] at hd
  cases hr : s.resources.find? (Protocol.resourceName id) with
  | none =>
      rw [hr] at hd
      cases hd
  | some r =>
      rw [hr] at hd
      cases hd
      exact (h.ordered r hr).legible

/-- An endpoint stems from some request of an id. -/
def Asked (asked : (p : Protocol) → Endpoint p → Prop) (id : p.Identity) (e : Endpoint p) : Prop :=
  ∃ requested, asked p requested ∧ requested.configId = Protocol.configId id
    ∧ e.StemsFrom requested

/-- **What is read back** of a rooted endpoint stems from a request. -/
lemma Rooted.asked_reconstruct (h : Rooted asked id s) {stored : StoredConfig}
    (hstored : WrittenFor asked (Protocol.configId id) stored.config) {e : Endpoint p}
    (he : Gateway.reconstruct p stored (Cluster.deployment (Protocol.resourceName id) s) = .ok e) :
    Asked asked id e := by
  obtain ⟨b, hb, he⟩ := bind_eq_ok_iff.1 he
  cases he
  obtain ⟨requested, hasked, hid, hstems⟩ := hstored.exists_request
  rcases hstems.ofPromoter_cases (fun d hd => h.legible_deployment hd)
    (Cluster.deployment (Protocol.resourceName id) s).volumeDefinitions with
    ⟨-, b', hb', hstems⟩ | ⟨-, err, herr⟩
  · rw [hb'] at hb
    cases hb
    have hshaped := hstems.shaped
    exact ⟨requested, hasked, hid,
      ⟨hshaped.name, hshaped.checked, hshaped.filled, hshaped.fileSystems, hshaped.ascending,
        hshaped.numbers⟩, hstems.identity, hstems.initiators⟩
  · rw [herr] at hb
    cases hb

lemma triple_rooted_load {stored : StoredConfig}
    (hstored : WrittenFor asked (Protocol.configId id) stored.config) :
    Triple (Rooted asked id) ((gateway w).load p stored (Protocol.resourceName id))
      (fun x c => Asked asked id x.1 ∧ Rooted asked id c) (Rooted asked id) := by
  intro c hc
  rw [load_apply]
  refine ⟨fun x t hrun => ?_, fun err t hrun => ?_⟩
  · obtain ⟨hread, rfl⟩ := Prod.mk.inj hrun
    obtain ⟨e, he, rfl⟩ := map_eq_ok_iff.1 hread
    exact ⟨hc.asked_reconstruct hstored he, hc⟩
  · obtain ⟨-, rfl⟩ := Prod.mk.inj hrun
    exact hc

/-! ## Operations -/

lemma keeps_rooted_start : Keeps (Rooted asked id) ((gateway w).start id) :=
  keeps_switch w (triple_rooted_find w) (fun _ h => h.2)
    (fun stored => Triple.of_forall fun h => keeps_rooted_attach (h stored rfl))
    keeps_rooted_placements _ _ _

lemma keeps_rooted_stop : Keeps (Rooted asked id) ((gateway w).stop id) :=
  keeps_switch w (triple_rooted_find w) (fun _ h => h.2)
    (fun stored => Triple.of_forall fun _ => keeps_rooted_detach stored.config)
    keeps_rooted_placements _ _ _

lemma keeps_rooted_delete : Keeps (Rooted asked id) ((gateway w).delete id) := by
  refine Triple.bind (Triple.inPhase _ keeps_rooted_deleteConfig) fun _ => ?_
  refine Triple.bind (Gateway.keeps_await keeps_rooted_placements _ _) fun _ => Triple.inPhase _ ?_
  exact Triple.orAbsent keeps_rooted_deleteResource (fun _ h => h) fun _ h => h

/-- **An endpoint that stems from a request is written for it.** -/
lemma keeps_rooted_store {e : Endpoint p} (he : Asked asked id e) (placements : List Placement)
    (verb : String) : Keeps (Rooted asked id) ((gateway w).store e placements verb) := by
  obtain ⟨requested, hasked, hid, hstems⟩ := he
  refine Triple.bind (Triple.ofExcept (Q := fun config c =>
      WrittenFor asked (Protocol.configId id) config ∧ Rooted asked id c)
    (fun config c hconfig hc =>
      ⟨⟨p, requested, hasked, hid, e, placements, hstems, hconfig⟩, hc⟩) fun _ h => h)
    fun config => ?_
  exact Triple.of_forall fun h => Triple.inPhase _ (keeps_rooted_ensureConfig h)

lemma keeps_rooted_create {requested : Endpoint p} (hasked : asked p requested) :
    Keeps (Rooted asked requested.identity) ((gateway w).create requested) := by
  refine Triple.bind (Triple.ofExcept (Q := fun _ c => requested.fillDefaults.validate = .ok ()
    ∧ Rooted asked requested.identity c) (fun _ c hvalid h => ⟨hvalid, h⟩) fun _ h => h)
    fun _ => Triple.of_forall fun hvalid => ?_
  refine Triple.bind ((readOnly_checkExclusive w _).keeps _) fun _ => ?_
  refine Triple.bind ((readOnly_find w _).keeps _) fun stored? => ?_
  cases stored? with
  | some stored => exact (readOnly_existing w stored _ _).keeps _
  | none =>
      have hsettled := Endpoint.settled_fillDefaults hvalid
      refine Triple.bind (Triple.inPhase _ (keeps_rooted_ensure hsettled rfl false))
        fun deployment => ?_
      refine Triple.bind (keeps_rooted_store w
        ⟨requested, hasked, rfl, Endpoint.stemsFrom_fillDefaults hvalid⟩ _ _) fun _ => ?_
      refine Triple.bind (keeps_rooted_start w) fun started => ?_
      cases started with
      | some e => exact (readOnly_pure _).keeps _
      | none => exact (readOnly_throw _).keeps _

/-- An endpoint stems from its request with one more volume, too. -/
lemma triple_rooted_withVolume {e : Endpoint p} (he : Asked asked id e) (deployed : DeployedState)
    (v : Volume) : Triple (Rooted asked id) ((gateway w).withVolume id e deployed v)
      (fun x c => Asked asked id x.1 ∧ Rooted asked id c) (Rooted asked id) := by
  rw [Gateway.withVolume]
  split
  · split
    · exact Triple.pure fun _ h => ⟨he, h⟩
    · exact Triple.throw fun _ h => h
  split
  · exact Triple.throw fun _ h => h
  obtain ⟨requested, hasked, hid, hstems⟩ := he
  set extended := Endpoint.fillDefaults { e with volumes := e.volumes ++ [v] }
  refine Triple.bind (Triple.ofExcept (Q := fun _ c => extended.validate = .ok ()
    ∧ Rooted asked id c) (fun _ c hvalid h => ⟨hvalid, h⟩) fun _ h => h)
    fun _ => Triple.of_forall fun hvalid => ?_
  have hsettled := Endpoint.settled_fillDefaults hvalid
  have hextended : extended.StemsFrom requested :=
    ⟨hsettled.shaped, hstems.identity, by
      rw [show extended.settings = e.settings from hstems.shaped.filled, hstems.initiators]⟩
  refine Triple.bind (Triple.inPhase _
    (keeps_rooted_ensure hsettled (hextended.resourceName hid) true)) fun deployment => ?_
  exact Triple.pure fun _ h => ⟨⟨requested, hasked, hid, hextended⟩, h⟩

lemma keeps_rooted_addVolume (v : Volume) :
    Keeps (Rooted asked id) ((gateway w).addVolume id v) := by
  refine Triple.bind ((readOnly_ofExcept _).keeps _) fun _ => ?_
  refine Triple.bind (triple_rooted_find w) fun found => Triple.of_forall fun hfound => ?_
  cases found with
  | none => exact (readOnly_pure _).keeps _
  | some stored =>
      refine Triple.bind (triple_rooted_load w (hfound stored rfl)) fun x =>
        Triple.of_forall fun hx => ?_
      refine Triple.bind (triple_rooted_withVolume w hx _ v) fun y => Triple.of_forall fun hy => ?_
      exact Triple.bind (keeps_rooted_store w hy _ _) fun _ => (readOnly_get w id).keeps _

lemma keeps_rooted_deleteVolume (number : UInt32) :
    Keeps (Rooted asked id) ((gateway w).deleteVolume id number) := by
  rw [Gateway.deleteVolume]
  split
  · exact (readOnly_throw _).keeps _
  rename_i hnumber
  refine Triple.bind (triple_rooted_find w) fun found => Triple.of_forall fun hfound => ?_
  cases found with
  | none => exact (readOnly_pure _).keeps _
  | some stored =>
      refine Triple.bind (triple_rooted_load w (hfound stored rfl)) fun x =>
        Triple.of_forall fun hx => ?_
      simp only
      split
      · exact (readOnly_throw _).keeps _
      refine Triple.bind (Triple.inPhase _ (Triple.orAbsent (keeps_rooted_removeVolume hnumber)
        (fun _ h => h) fun _ h => h)) fun _ => ?_
      obtain ⟨requested, hasked, hid, hstems⟩ := hx
      have hwithout : Asked asked id (x.1.withoutVolume number) :=
        ⟨requested, hasked, hid, hstems.shaped.withoutVolume number, hstems.identity,
          hstems.initiators⟩
      exact Triple.bind (keeps_rooted_store w hwithout _ _) fun _ => (readOnly_get w id).keeps _

/-- **Every operation keeps its endpoint rooted**, whether it succeeds or fails. -/
theorem rooted_after (op : Operation p) (hop : op.identity? = some id)
    (hasked : ∀ requested, op = .create requested → asked p requested) {c : Cluster}
    (hc : Rooted asked id c) : Rooted asked id (op.after w c) := by
  cases op with
  | list => cases hop
  | get id =>
      cases hop
      exact ((readOnly_get w id).keeps _).state hc
  | create requested =>
      cases hop
      exact (keeps_rooted_create w (hasked requested rfl)).state hc
  | start id =>
      cases hop
      exact (keeps_rooted_start w).state hc
  | stop id =>
      cases hop
      exact (keeps_rooted_stop w).state hc
  | delete id =>
      cases hop
      exact (keeps_rooted_delete w).state hc
  | addVolume id v =>
      cases hop
      exact (keeps_rooted_addVolume w v).state hc
  | deleteVolume id number =>
      cases hop
      exact (keeps_rooted_deleteVolume w number).state hc

end Operation

/-! ## Runs -/

namespace Cluster

variable {asked : (p : Protocol) → Endpoint p → Prop} {c s t : Cluster}

/-- **A cluster is rooted** if its resources are in order and each text was written for a
request. -/
structure Rooted (asked : (p : Protocol) → Endpoint p → Prop) (c : Cluster) : Prop where
  ordered : ∀ name, OrderAt name c
  written : ∀ path text, c.configs.find? path = some text → ∃ id config,
    path = PromoterConfig.pathOf id ∧ WrittenFor asked id config ∧ text.content = config.toToml

/-- A rooted cluster roots each endpoint. -/
lemma Rooted.endpoint (h : Rooted asked c) {p : Protocol} (id : p.Identity) :
    Operation.Rooted asked id c := by
  refine ⟨h.ordered _, fun text htext => ?_⟩
  obtain ⟨other, config, hpath, hwritten, hcontent⟩ := h.written _ text htext
  obtain rfl := PromoterConfig.pathOf_inj hpath
  exact ⟨config, hwritten, hcontent⟩

/-- Being rooted shows in the texts and the layouts. -/
lemma Rooted.of_layout (h : Rooted asked s)
    (hconfigs : ∀ path, t.configs.find? path = s.configs.find? path)
    (hlayout : ∀ name, t.layout? name = s.layout? name) : Rooted asked t :=
  ⟨fun name => (h.ordered name).of_layout (hlayout name), fun path text htext =>
    h.written path text ((hconfigs path).symm.trans htext)⟩

/-- **An operation keeps a cluster rooted**: its own endpoint, and what it cannot reach. -/
lemma Rooted.after (h : Rooted asked c) (hown : OwnTexts c) (w : Waiter) {p : Protocol}
    (op : Operation p) (hasked : ∀ requested, op = .create requested → asked p requested) :
    Rooted asked (op.after w c) := by
  cases hop : op.identity? with
  | none => rwa [Operation.after_of_identity?_eq_none w hop]
  | some id =>
      have hrooted := op.rooted_after w hop hasked (h.endpoint id)
      obtain ⟨hsame, -⟩ := op.confined_after w hop (hown p id)
      refine ⟨fun name r hr => ?_, fun path text htext => ?_⟩
      · by_cases hname : name = Protocol.resourceName id
        · subst hname
          exact hrooted.ordered r hr
        · rw [hsame.resources name hname] at hr
          exact h.ordered name r hr
      · by_cases hpath : path = PromoterConfig.pathOf (Protocol.configId id)
        · subst hpath
          obtain ⟨config, hwritten, hcontent⟩ := hrooted.written text htext
          exact ⟨_, config, rfl, hwritten, hcontent⟩
        · rw [hsame.configs path fun heq => hpath (Option.some.inj heq)] at htext
          exact h.written path text htext

/-- **In every run with given requests the cluster is rooted in them.** -/
theorem ReachableBy.rooted (hc : ReachableBy asked c) : Rooted asked c := by
  induction hc with
  | fresh nodes groups polls hgroups =>
      exact ⟨fun name r hr => (nomatch hr), fun path text htext => nomatch htext⟩
  | operate hc op hop w ih => exact ih.after hc.reachable.ownTexts w op hop
  | stall _ stalled ih => exact ih.of_layout (fun _ => rfl) fun _ => rfl
  | failPolls _ failingPolls ih => exact ih.of_layout (fun _ => rfl) fun _ => rfl
  | setDiskState _ name node number state ih =>
      exact ih.of_layout (sameOutside_setDiskState none name node number state _).find?_configs
        (layout?_setDiskState name node number state _)

end Cluster

end FailoverStorage

import FailoverStorage.Proofs.Cluster.Soundness
import FailoverStorage.Proofs.Gateway.Confined

/-!
# Storage covers configurations

A stored text and the resource behind it are written by separate steps, and any operation may stop
between two of them.  What holds all the same, in every run of one protocol: a stored text is the
configuration of some settled endpoint with the current devices of its resource, and the resource is
sound, has all volumes of that endpoint and carries its properties (`Endpoint.Describes`).

**Steps.**  Between a step that changes the devices and the step that stores the new text the
invariant is broken, but no step in between can fail (`Operation.triple_store`).  A failing step
leaves the devices alone, or there were none.

**Operations.**  `Operation.covers_after` is the invariant for one endpoint, over every operation
and all the ways in which it fails.
-/

namespace FailoverStorage

open FailoverStorage.Action

/-! ## Described endpoints -/

namespace Endpoint

variable {p : Protocol} {d e : Endpoint p} {content : String} {r r' : ClusterResource}

/-- **A text describes an endpoint over a resource**: it is the endpoint's configuration with the
devices of the resource, which has the endpoint's volumes and properties. -/
structure Describes (d : Endpoint p) (content : String) (r : ClusterResource) : Prop where
  settled : d.Settled
  written : ∃ config, d.toPromoter r.placements = .ok config ∧ content = config.toToml
  covered : ∀ v ∈ d.volumes, (r.volumes.find? v.number).isSome = true
  recorded : ∀ key value, d.properties.find? key = some value →
    r.definition.properties.find? key = some value

lemma Describes.of_layout (h : d.Describes content r) (hlayout : r'.layout = r.layout) :
    d.Describes content r' := by
  obtain ⟨hdefinition, hvolumes, hdevices⟩ := ClusterResource.layout_eq_iff.1 hlayout
  obtain ⟨config, hconfig, hcontent⟩ := h.written
  refine ⟨h.settled, ⟨config, ?_, hcontent⟩, ?_, ?_⟩
  · rw [toPromoter_congr rfl rfl rfl rfl hdevices, hconfig]
  · rw [hvolumes]
    exact h.covered
  · rw [hdefinition]
    exact h.recorded

lemma groupOf_ne_empty (definition : Option ResourceDefinition) : groupOf definition ≠ "" := by
  rw [groupOf]
  cases hfilter : (definition.map (·.resourceGroup)).filter (!·.isEmpty) with
  | none => decide
  | some group =>
      obtain ⟨-, hgroup⟩ := Option.filter_eq_some_iff.1 hfilter
      simpa using hgroup

/-- What is read back of a settled endpoint is settled if every volume has a size. -/
lemma Settled.recovered (h : d.Settled) {volumeDefinitions : List VolumeDefinition}
    (hsizes : ∀ v ∈ d.volumes, sizeOf volumeDefinitions v.number ≠ 0)
    (definition : Option ResourceDefinition) :
    (d.recovered definition volumeDefinitions).Settled := by
  have hfill : ∀ v, fillVolume p (resized volumeDefinitions v)
      = resized volumeDefinitions (fillVolume p v) := fun v => by
    cases p <;> rfl
  refine
    { name := h.name
      checked := h.checked
      filled := h.filled
      fileSystems := fun v hv => ?_
      ascending := List.pairwise_map.2 h.ascending
      numbers := fun v hv => ?_
      sizes := fun v hv => ?_
      resourceGroup := groupOf_ne_empty definition }
  all_goals obtain ⟨w, hw, rfl⟩ := List.mem_map.1 hv
  · rw [hfill, h.fileSystems w hw]
  · exact h.numbers w hw
  · exact hsizes w hw

lemma sizeOf_ne_zero (hr : r.Coherent) {number : UInt32}
    (hcovered : (r.volumes.find? number).isSome = true) : sizeOf r.volumes.values number ≠ 0 := by
  obtain ⟨d, hd⟩ := Option.isSome_iff_exists.1 hcovered
  rw [sizeOf, hr.find?_values, hd]
  exact (hr.defined number d hd).2

/-- **What is read back is described by the same text.** -/
lemma Describes.recovered (h : d.Describes content r) (hr : r.Coherent) (status : Status) :
    ({ d.recovered (some r.definition) r.volumes.values with status } : Endpoint p).Describes
      content r := by
  obtain ⟨config, hconfig, hcontent⟩ := h.written
  have hsettled := h.settled.recovered (fun v hv => sizeOf_ne_zero hr (h.covered v hv))
    (some r.definition)
  have hkeys : (d.recovered (some r.definition) r.volumes.values).volumes.map volumeKey
      = d.volumes.map volumeKey := by
    rw [Endpoint.recovered, List.map_map]
    rfl
  refine ⟨⟨hsettled.name, hsettled.checked, hsettled.filled, hsettled.fileSystems,
    hsettled.ascending, hsettled.numbers, hsettled.sizes, hsettled.resourceGroup⟩,
    ⟨config, ?_, hcontent⟩, fun v hv => ?_, fun key value hkey => ?_⟩
  · rw [← hconfig]
    exact toPromoter_congr rfl rfl rfl hkeys rfl
  · obtain ⟨w, hw, rfl⟩ := List.mem_map.1 hv
    exact h.covered w hw
  · refine h.recorded key value ?_
    rw [← hkey]
    exact congrArg (fun m => SortedMap.find? m key) (properties_congr rfl)

/-- A settled endpoint asks for a complete resource. -/
lemma Settled.complete (h : e.Settled) : (Gateway.resourceRequest e).Complete :=
  { privateVolume := List.mem_cons_self
    nodup := h.nodup_storageVolumes
    sizes := fun v hv => by
      rcases List.mem_cons.1 hv with rfl | hv
      · decide
      · exact h.sizes v hv }

end Endpoint

/-! ## Storage of one endpoint -/

namespace Operation

variable {p : Protocol} {id : p.Identity} {s t : Cluster} {α : Type}

/-- **The storage of an endpoint covers its configuration**: the resource of its name is sound if it
exists, and a stored text describes an endpoint over it. -/
structure Covers (id : p.Identity) (c : Cluster) : Prop where
  sound : ∀ r, c.resources.find? (Protocol.resourceName id) = some r →
    r.Sound (Protocol.resourceName id)
  described : ∀ text, c.configs.find? (PromoterConfig.pathOf (Protocol.configId id)) = some text →
    ∃ (d : Endpoint p) (r : ClusterResource), d.configId = Protocol.configId id
      ∧ c.resources.find? (Protocol.resourceName id) = some r ∧ d.Describes text.content r

/-- Nothing is stored, and the resource is sound if it exists. -/
structure Bare (id : p.Identity) (c : Cluster) : Prop where
  sound : ∀ r, c.resources.find? (Protocol.resourceName id) = some r →
    r.Sound (Protocol.resourceName id)
  noText : c.configs.find? (PromoterConfig.pathOf (Protocol.configId id)) = none

lemma Bare.covers (h : Bare id s) : Covers id s :=
  ⟨h.sound, fun text htext => by rw [h.noText] at htext; cases htext⟩

/-- A configuration holds if its document is what is stored. -/
structure Holds (id : p.Identity) (config : PromoterConfig) (c : Cluster) : Prop where
  covers : Covers id c
  belongs : config.Belongs (Protocol.configId id) (Protocol.resourceName id)
  stored : (c.configs.find? (PromoterConfig.pathOf (Protocol.configId id))).map (·.content)
    = some config.toToml

/-- What holds after a configuration was looked up. -/
def Found (id : p.Identity) (stored? : Option StoredConfig) (c : Cluster) : Prop :=
  match stored? with
  | none => Bare id c
  | some stored => Holds id stored.config c

/-- **Coverage shows in the texts and the layout.** -/
lemma Covers.of_layout (h : Covers id s)
    (htext : (t.configs.find? (PromoterConfig.pathOf (Protocol.configId id))).map (·.content)
      = (s.configs.find? (PromoterConfig.pathOf (Protocol.configId id))).map (·.content))
    (hlayout : t.layout? (Protocol.resourceName id) = s.layout? (Protocol.resourceName id)) :
    Covers id t := by
  refine ⟨fun r hr => ?_, fun text ht => ?_⟩
  · obtain ⟨r₀, hr₀, heq⟩ := Cluster.exists_of_layout?_eq hlayout hr
    exact (h.sound r₀ hr₀).of_layout heq
  · rw [ht, Option.map_some] at htext
    obtain ⟨old, hold, hcontent⟩ := Option.map_eq_some_iff.1 htext.symm
    obtain ⟨d, r₀, hid, hr₀, hdescribes⟩ := h.described old hold
    obtain ⟨r, hr, heq⟩ := Cluster.exists_of_layout?_eq hlayout.symm hr₀
    exact ⟨d, r, hid, hr, hcontent ▸ hdescribes.of_layout heq.symm⟩

lemma Bare.of_layout (h : Bare id s)
    (htext : t.configs.find? (PromoterConfig.pathOf (Protocol.configId id)) = none)
    (hlayout : t.layout? (Protocol.resourceName id) = s.layout? (Protocol.resourceName id)) :
    Bare id t := by
  refine ⟨fun r hr => ?_, htext⟩
  obtain ⟨r₀, hr₀, heq⟩ := Cluster.exists_of_layout?_eq hlayout hr
  exact (h.sound r₀ hr₀).of_layout heq

/-! ## Reading and waiting -/

variable (w : Waiter)

lemma keeps_covers_placements :
    Keeps (Covers id) (Cluster.placements (Protocol.resourceName id)) := by
  refine Triple.of_state fun c hc => ?_
  have hsame := Cluster.sameOutside_placements none (Protocol.resourceName id) c
  exact hc.of_layout (by rw [hsame.find?_configs]) (Cluster.layout?_placements _ _ c)

lemma keeps_bare_placements : Keeps (Bare id) (Cluster.placements (Protocol.resourceName id)) := by
  refine Triple.of_state fun c hc => ?_
  have hsame := Cluster.sameOutside_placements none (Protocol.resourceName id) c
  exact hc.of_layout (by rw [hsame.find?_configs, hc.noText]) (Cluster.layout?_placements _ _ c)

/-- What is found of an endpoint is what its text describes. -/
lemma Covers.found (h : Covers id s) {stored? : Option StoredConfig}
    (hfound : found id s = .ok stored?) : Found id stored? s := by
  cases htext : s.configs.find? (PromoterConfig.pathOf (Protocol.configId id)) with
  | none =>
      rw [Operation.found, htext] at hfound
      cases hfound
      exact ⟨h.sound, htext⟩
  | some text =>
      obtain ⟨d, r, hid, hr, hdescribes⟩ := h.described text htext
      obtain ⟨config, hconfig, hcontent⟩ := hdescribes.written
      have hbelongs := PromoterConfig.belongs_of_toPromoter hconfig
      rw [Operation.found, htext, Cluster.readStored, hcontent, hbelongs.reads] at hfound
      cases hfound
      have hname : d.resourceName = Protocol.resourceName id := (Protocol.configId_inj hid).2
      exact ⟨h, hid ▸ hname ▸ hbelongs, by rw [htext, Option.map_some, hcontent]⟩

lemma triple_covers_find (id : p.Identity) :
    Triple (Covers id) ((gateway w).find id) (fun stored? => Found id stored?) (Covers id) := by
  intro c hc
  rw [find_apply]
  refine ⟨fun stored? t hrun => ?_, fun err t hrun => ?_⟩
  · obtain ⟨hfound, rfl⟩ := Prod.mk.inj hrun
    exact hc.found hfound
  · obtain ⟨-, rfl⟩ := Prod.mk.inj hrun
    exact hc

/-- What a configuration that holds describes. -/
lemma Holds.described {config : PromoterConfig} (h : Holds id config s) :
    ∃ (d : Endpoint p) (r : ClusterResource), d.configId = Protocol.configId id
      ∧ s.resources.find? (Protocol.resourceName id) = some r
      ∧ d.Describes config.toToml r ∧ d.toPromoter r.placements = .ok config := by
  obtain ⟨text, htext, hcontent⟩ := Option.map_eq_some_iff.1 h.stored
  obtain ⟨d, r, hid, hr, hdescribes⟩ := h.covers.described text htext
  rw [hcontent] at hdescribes
  obtain ⟨config', hconfig, heq⟩ := hdescribes.written
  have hsame := h.belongs.reads
  rw [heq, (PromoterConfig.belongs_of_toPromoter hconfig).reads] at hsame
  cases hsame
  exact ⟨d, r, hid, hr, hdescribes, hconfig⟩

/-! ## Attaching, detaching and deleting -/

lemma triple_covers_attach {config : PromoterConfig} :
    Triple (Holds id config) (Cluster.attach config) (fun _ => Covers id) (Covers id) := by
  refine Triple.of_state fun c hc =>
    hc.covers.of_layout ?_ (Cluster.layout?_schedule config true c _)
  rw [Cluster.configs_attach, hc.stored, PromoterConfig.path, hc.belongs.hasId,
    SortedMap.find?_insert, if_pos rfl, Option.map_some]

lemma triple_covers_detach {config : PromoterConfig} :
    Triple (Holds id config) (Cluster.detach config) (fun _ => Covers id) (Covers id) :=
  Triple.of_state fun c hc =>
    hc.covers.of_layout (Cluster.content_detach config c _) (Cluster.layout?_detach config c _)

lemma triple_bare_deleteConfig :
    Triple (Covers id) (Cluster.deleteConfig (Protocol.configId id)) (fun _ => Bare id)
      (Covers id) := by
  intro c hc
  rw [Cluster.deleteConfig_apply]
  refine ⟨fun _ t hrun => ?_, fun err t hrun => ?_⟩
  · cases hrun
    refine ⟨fun r hr => ?_, Cluster.find?_withoutConfig _ c⟩
    obtain ⟨r₀, hr₀, heq⟩ := Cluster.exists_of_layout?_eq (Cluster.layout?_withoutConfig _ c _) hr
    exact (hc.sound r₀ hr₀).of_layout heq
  · cases hrun

lemma keeps_bare_deleteResource :
    Keeps (Bare id) (Cluster.deleteResource (Protocol.resourceName id)) := by
  refine Triple.of_state fun c hc => ?_
  rcases Cluster.deleteResource_cases (Protocol.resourceName id) c with
    ⟨-, err, h⟩ | ⟨r, -, -, h⟩
  · rw [h]
    exact hc
  · rw [h]
    refine ⟨fun r' hr' => ?_, hc.noText⟩
    simp [Cluster.countStorageWrite] at hr'

lemma keeps_covers_start : Keeps (Covers id) ((gateway w).start id) :=
  keeps_switch w (triple_covers_find w id) (fun _ h => Bare.covers h)
    (fun _ => triple_covers_attach) keeps_covers_placements _ _ _

lemma keeps_covers_stop : Keeps (Covers id) ((gateway w).stop id) :=
  keeps_switch w (triple_covers_find w id) (fun _ h => Bare.covers h)
    (fun _ => triple_covers_detach) keeps_covers_placements _ _ _

lemma keeps_covers_delete : Keeps (Covers id) ((gateway w).delete id) := by
  refine Triple.bind (Triple.inPhase _ triple_bare_deleteConfig) fun _ => ?_
  have hrest : Keeps (Bare id) (((gateway w).await (Protocol.resourceName id) "stop"
      Waiter.noneInUse) >>= fun _ => (Action.orAbsent
        ((gateway w).backend.storage.deleteResource (Protocol.resourceName id))).inPhase
          ("failed to delete resource " ++ Protocol.resourceName id)) :=
    Triple.bind (Gateway.keeps_await keeps_bare_placements _ _) fun _ =>
      Triple.inPhase _ (Triple.orAbsent keeps_bare_deleteResource (fun _ h => h) fun _ h => h)
  exact hrest.imp (fun _ h => h) (fun _ _ h => h.covers) fun _ h => h.covers

/-! ## Storing -/

/-- **An endpoint is ready to be stored** with placements if its resource has their devices, its
volumes and its properties. -/
structure Ready (id : p.Identity) (e : Endpoint p) (placements : List Placement) (c : Cluster) :
    Prop where
  settled : e.Settled
  hasId : e.configId = Protocol.configId id
  deployed : ∃ r, c.resources.find? (Protocol.resourceName id) = some r
    ∧ r.Sound (Protocol.resourceName id)
    ∧ Endpoint.deviceLayout placements = Endpoint.deviceLayout r.placements
    ∧ (∀ v ∈ e.volumes, (r.volumes.find? v.number).isSome = true)
    ∧ ∀ key value, e.properties.find? key = some value →
      r.definition.properties.find? key = some value

/-- **Storing an endpoint that is ready cannot fail**, and covers it. -/
lemma triple_store (e : Endpoint p) (placements : List Placement) (verb : String) :
    Triple (Ready id e placements) ((gateway w).store e placements verb) (fun _ => Covers id)
      (Covers id) := by
  intro c hc
  obtain ⟨r, hr, hsound, hdevices, hcovered, hrecorded⟩ := hc.deployed
  obtain ⟨config, hconfig⟩ := hc.settled.exists_toPromoter placements
  have hstore : (gateway w).store e placements verb c
      = (.ok (), (Cluster.ensureConfig config c).2) := by
    rw [Gateway.store, hconfig]
    rfl
  rw [hstore]
  refine ⟨fun _ t hrun => ?_, fun err t hrun => ?_⟩
  · cases hrun
    refine ⟨fun r' hr' => ?_, fun text htext => ?_⟩
    · cases hr.symm.trans hr'
      exact hsound
    · have hid : config.id = Protocol.configId id :=
        (PromoterConfig.belongs_of_toPromoter hconfig).hasId.trans hc.hasId
      rw [Cluster.configs_ensureConfig, PromoterConfig.path, hid, SortedMap.find?_insert,
        if_pos rfl] at htext
      cases htext
      refine ⟨e, r, hc.hasId, hr, hc.settled, ⟨config, ?_, rfl⟩, hcovered, hrecorded⟩
      rw [← hconfig]
      exact Endpoint.toPromoter_congr rfl rfl rfl rfl hdevices.symm
  · cases hrun

/-! ## Ensuring -/

/-- A stored text describes an endpoint with the properties of a given one. -/
def SameProperties (id : p.Identity) (e : Endpoint p) (c : Cluster) : Prop :=
  ∀ text, c.configs.find? (PromoterConfig.pathOf (Protocol.configId id)) = some text →
    ∃ (d : Endpoint p) (r : ClusterResource), d.configId = Protocol.configId id
      ∧ c.resources.find? (Protocol.resourceName id) = some r ∧ d.Describes text.content r
      ∧ d.properties = e.properties

/-- **Ensuring the resource of an endpoint** makes the endpoint ready, or fails and leaves what is
stored covered: if it fails half-way there are no devices, before or after. -/
lemma triple_ensure (id : p.Identity) {e : Endpoint p} (he : e.Settled)
    (hid : e.configId = Protocol.configId id) (mayExtend : Bool) :
    Triple (fun c => Covers id c ∧ SameProperties id e c)
      (Cluster.ensureResource (Gateway.resourceRequest e) mayExtend)
      (fun deployment => Ready id e deployment.placements) (Covers id) := by
  rintro c ⟨hc, hsame⟩
  have hname : Protocol.resourceName id = (Gateway.resourceRequest e).name :=
    (Protocol.configId_inj hid).2.symm
  have hsound := hc.sound
  rw [hname] at hsound
  have hconfigs := (Cluster.sameOutside_ensureResource none (Gateway.resourceRequest e) mayExtend
    c).find?_configs (PromoterConfig.pathOf (Protocol.configId id))
  rcases Cluster.ensureResource_cases he.complete hsound mayExtend with
    ⟨err, h⟩ | ⟨result, t, r, h, hr, hensured, hresult⟩
  · rw [h]
    refine ⟨fun _ t hrun => ?_, fun err' t hrun => ?_⟩
    · cases hrun
    · cases hrun
      exact hc
  rw [h] at hconfigs ⊢
  simp only at hconfigs
  rw [← hname] at hr
  refine ⟨fun deployment t' hrun => ?_, fun err t' hrun => ?_⟩
  · cases hrun
    refine ⟨he, hid, r, hr, hname ▸ hensured.sound, ?_, fun v hv => ?_, hensured.recorded⟩
    · rw [show deployment.placements = r.placements from hresult]
    · exact hensured.covers v (List.mem_cons_of_mem _ hv)
  · cases hrun
    obtain ⟨hempty, hexisting⟩ := hresult
    refine ⟨fun r' hr' => ?_, fun text htext => ?_⟩
    · cases hr.symm.trans hr'
      exact hname ▸ hensured.sound
    · rw [hconfigs] at htext
      obtain ⟨d, r₀, hdid, hr₀, hdescribes, hproperties⟩ := hsame text htext
      obtain ⟨config, hconfig, hcontent⟩ := hdescribes.written
      rw [Cluster.existingPlacements, ← hname, hr₀] at hexisting
      refine ⟨d, r, hdid, hr, hdescribes.settled, ⟨config, ?_, hcontent⟩, fun v hv => ?_, ?_⟩
      · rw [hempty, ← hconfig]
        exact congrArg _ (show r₀.placements = [] from hexisting).symm
      · refine hensured.grown v.number ?_
        rw [Cluster.existingVolumes, ← hname, hr₀]
        exact hdescribes.covered v hv
      · rw [hproperties]
        exact hensured.recorded

/-! ## Loading -/

/-- **A loaded endpoint** is one that the stored text describes, with the current devices. -/
structure Loaded (id : p.Identity) (config : PromoterConfig) (x : Endpoint p × DeployedState)
    (c : Cluster) : Prop where
  holds : Holds id config c
  hasId : x.1.configId = Protocol.configId id
  described : ∃ r, c.resources.find? (Protocol.resourceName id) = some r
    ∧ x.2.placements = r.placements ∧ x.1.Describes config.toToml r

/-- What is read back of a configuration that holds is described by it. -/
lemma Holds.describes_reconstruct {stored : StoredConfig} (h : Holds id stored.config s)
    {e : Endpoint p} (he : Gateway.reconstruct p stored
      (Cluster.deployment (Protocol.resourceName id) s) = .ok e) :
    ∃ r, s.resources.find? (Protocol.resourceName id) = some r
      ∧ e.Describes stored.config.toToml r := by
  obtain ⟨d, r, hid, hr, hdescribes, hconfig⟩ := h.described
  refine ⟨r, hr, ?_⟩
  rw [Gateway.reconstruct, Cluster.deployment, hr] at he
  simp only at he
  by_cases hblank : ∀ iqn ∈ Endpoint.initiators d.settings, Text.IsBlankFree iqn.text
  · rw [Endpoint.ofPromoter_eq_recovered hdescribes.settled hblank hconfig
      hdescribes.recorded] at he
    cases he
    exact hdescribes.recovered (h.covers.sound r hr).coherent _
  · obtain ⟨err, herr⟩ := Endpoint.ofPromoter_eq_error hdescribes.settled hblank hconfig
      (some r.definition) r.volumes.values
    rw [herr] at he
    cases he

lemma triple_covers_load (stored : StoredConfig) :
    Triple (Holds id stored.config) ((gateway w).load p stored (Protocol.resourceName id))
      (fun x => Loaded id stored.config x) (Covers id) := by
  intro c hc
  rw [load_apply]
  refine ⟨fun x t hrun => ?_, fun err t hrun => ?_⟩
  · obtain ⟨hread, rfl⟩ := Prod.mk.inj hrun
    obtain ⟨e, he, rfl⟩ := map_eq_ok_iff.1 hread
    obtain ⟨r, hr, hdescribes⟩ := hc.describes_reconstruct he
    refine ⟨hc, (configId_reconstruct he).trans hc.belongs.hasId, r, hr, ?_, hdescribes⟩
    rw [Cluster.deployment, hr]
  · obtain ⟨-, rfl⟩ := Prod.mk.inj hrun
    exact hc.covers

section

variable {config : PromoterConfig} {x : Endpoint p × DeployedState} {c : Cluster}

lemma Loaded.ready (h : Loaded id config x c) : Ready id x.1 x.2.placements c := by
  obtain ⟨r, hr, hplacements, hdescribes⟩ := h.described
  exact ⟨hdescribes.settled, h.hasId, r, hr, h.holds.covers.sound r hr, by rw [hplacements],
    hdescribes.covered, hdescribes.recorded⟩

/-- Completing a loaded endpoint leaves its properties. -/
lemma Loaded.sameProperties (h : Loaded id config x c) {e : Endpoint p}
    (he : e.settings = x.1.settings) : SameProperties id e c := by
  intro text htext
  obtain ⟨r, hr, -, hdescribes⟩ := h.described
  have hcontent := h.holds.stored
  rw [htext, Option.map_some] at hcontent
  rw [← Option.some.inj hcontent] at hdescribes
  exact ⟨x.1, r, h.hasId, hr, hdescribes, Endpoint.properties_congr he.symm⟩

end

/-! ## Changing volumes -/

/-- An endpoint that has the volume, or is to have it, becomes ready. -/
lemma triple_withVolume {config : PromoterConfig} (x : Endpoint p × DeployedState) (v : Volume) :
    Triple (Loaded id config x) ((gateway w).withVolume id x.1 x.2 v)
      (fun y => Ready id y.1 y.2) (Covers id) := by
  rw [Gateway.withVolume]
  split
  · split
    · exact Triple.pure fun _ h => h.ready
    · exact Triple.throw fun _ h => h.holds.covers
  split
  · exact Triple.throw fun _ h => h.holds.covers
  -- what the volumes are extended to is checked, and has the settings of what was loaded
  set extended := Endpoint.fillDefaults { x.1 with volumes := x.1.volumes ++ [v] }
  refine Triple.bind (Triple.ofExcept (Q := fun _ c => (extended.validate = .ok ()
      ∧ x.1.configId = Protocol.configId id) ∧ Loaded id config x c)
    (fun _ c hvalid h => ⟨⟨hvalid, h.hasId⟩, h⟩) fun _ h => h.holds.covers)
    fun _ => Triple.of_forall fun hchecked => ?_
  obtain ⟨hvalid, hid⟩ := hchecked
  have hensure := triple_ensure id (Endpoint.settled_fillDefaults hvalid) hid true
  refine Triple.bind (Triple.inPhase _ (hensure.imp (fun c h => ⟨h.holds.covers, ?_⟩)
    (fun _ _ h => h) fun _ h => h)) fun deployment => Triple.pure fun _ h => h
  obtain ⟨r, -, -, hdescribes⟩ := h.described
  exact h.sameProperties hdescribes.settled.filled

/-- No placement has a volume that is not defined. -/
lemma map_withoutVolume {r : ClusterResource} (h : r.Coherent) {number : UInt32}
    (habsent : r.volumes.contains number = false) :
    r.placements.map (Gateway.withoutVolume number) = r.placements := by
  have hsame : ∀ pl ∈ r.placements, Gateway.withoutVolume number pl = pl := fun pl hpl => by
    have hfilter : pl.volumes.filter (·.number ≠ number) = pl.volumes := by
      refine List.filter_eq_self.2 fun v hv => ?_
      have hkey : v.number ∈ r.volumes.keys := by
        rw [← h.placed pl hpl]
        exact List.mem_map_of_mem hv
      have hne : v.number ≠ number := fun heq => by
        rw [heq, SortedMap.mem_keys_iff] at hkey
        rw [SortedMap.contains, hkey] at habsent
        cases habsent
      simpa using hne
    rw [Gateway.withoutVolume, hfilter]
  rw [List.map_congr_left hsame, List.map_id']

/-- Without a volume, or if it never had it, an endpoint is ready again. -/
lemma triple_removeVolume {config : PromoterConfig} (x : Endpoint p × DeployedState)
    {number : UInt32} (hnumber : number ≠ Volume.privateNumber) :
    Triple (Loaded id config x)
      (Action.orAbsent (Cluster.deleteVolume (Protocol.resourceName id) number))
      (fun _ => Ready id (x.1.withoutVolume number)
        (x.2.placements.map (Gateway.withoutVolume number))) (Covers id) := by
  have hdelete : Triple (Loaded id config x)
      (Cluster.deleteVolume (Protocol.resourceName id) number)
      (fun _ => Ready id (x.1.withoutVolume number)
        (x.2.placements.map (Gateway.withoutVolume number)))
      (fun c => Ready id (x.1.withoutVolume number)
        (x.2.placements.map (Gateway.withoutVolume number)) c ∧ Covers id c) := by
    intro c hc
    obtain ⟨r, hr, hplacements, hdescribes⟩ := hc.described
    have hsound := hc.holds.covers.sound r hr
    have hsettled := hdescribes.settled.withoutVolume number
    have hrecorded := hdescribes.recorded
    rw [← Endpoint.properties_congr (d := x.1.withoutVolume number) (e := x.1) rfl] at hrecorded
    rcases Cluster.deleteVolume_cases (Protocol.resourceName id) number c with
      ⟨habsent, err, h⟩ | ⟨r', hr', -, h⟩
    · rw [h]
      refine ⟨fun _ t hrun => ?_, fun err' t hrun => ?_⟩
      · cases hrun
      cases hrun
      refine ⟨⟨hsettled, hc.hasId, r, hr, hsound, ?_, fun v hv => ?_, hrecorded⟩,
        hc.holds.covers⟩
      · rw [hplacements, map_withoutVolume hsound.coherent (habsent r hr)]
      · exact hdescribes.covered v (Endpoint.mem_withoutVolume.1 hv).1
    · cases hr.symm.trans hr'
      rw [h]
      refine ⟨fun _ t hrun => ?_, fun err t hrun => ?_⟩
      · cases hrun
        refine ⟨hsettled, hc.hasId, Cluster.removeVolume number r, ?_, hsound.removeVolume hnumber,
          ?_, fun v hv => ?_, hrecorded⟩
        · exact (Cluster.find?_changeResource _ _ _ _).trans ((if_pos rfl).trans
            (congrArg (Option.map _) hr))
        · rw [hplacements]
          rfl
        · obtain ⟨hv, hne⟩ := Endpoint.mem_withoutVolume.1 hv
          rw [Cluster.removeVolume, SortedMap.find?_erase, if_neg hne]
          exact hdescribes.covered v hv
      · cases hrun
  refine Triple.imp (Triple.orAbsent hdelete (fun _ h => h) fun _ h => h.1) (fun _ h => h)
    (fun _ _ h => h) fun _ h => h.2

/-! ## Operations -/

lemma keeps_covers_create (requested : Endpoint p) :
    Keeps (Covers requested.identity) ((gateway w).create requested) := by
  refine Triple.bind (Triple.ofExcept (Q := fun _ c => requested.fillDefaults.validate = .ok ()
    ∧ Covers requested.identity c) (fun _ c hvalid h => ⟨hvalid, h⟩) fun _ h => h)
    fun _ => Triple.of_forall fun hvalid => ?_
  have hsettled := Endpoint.settled_fillDefaults hvalid
  refine Triple.bind ((readOnly_checkExclusive w _).keeps _) fun _ => ?_
  refine Triple.bind (triple_covers_find w requested.identity) fun stored? => ?_
  cases stored? with
  | some stored =>
      exact Triple.imp ((readOnly_existing w stored _ _).keeps (Covers requested.identity))
        (fun _ h => h.covers) (fun _ _ h => h) fun _ h => h
  | none =>
      have hensure := triple_ensure requested.identity hsettled rfl false
      refine Triple.bind (Triple.inPhase _ (hensure.imp (fun c h => ⟨Bare.covers h, ?_⟩)
        (fun _ _ h => h) fun _ h => h)) fun deployment => ?_
      · intro text htext
        rw [Bare.noText h] at htext
        cases htext
      · refine Triple.bind (triple_store w requested.fillDefaults _ _) fun _ => ?_
        refine Triple.bind (keeps_covers_start w) fun started => ?_
        cases started with
        | some e => exact (readOnly_pure _).keeps _
        | none => exact (readOnly_throw _).keeps _

lemma keeps_covers_addVolume (v : Volume) :
    Keeps (Covers id) ((gateway w).addVolume id v) := by
  refine Triple.bind ((readOnly_ofExcept _).keeps _) fun _ => ?_
  refine Triple.bind (triple_covers_find w id) fun stored? => ?_
  cases stored? with
  | none => exact Triple.pure fun _ h => Bare.covers h
  | some stored =>
      refine Triple.bind (triple_covers_load w stored) fun x => ?_
      refine Triple.bind (triple_withVolume w x v) fun y => ?_
      exact Triple.bind (triple_store w y.1 _ _) fun _ => (readOnly_get w id).keeps _

lemma keeps_covers_deleteVolume (number : UInt32) :
    Keeps (Covers id) ((gateway w).deleteVolume id number) := by
  rw [Gateway.deleteVolume]
  split
  · exact (readOnly_throw _).keeps _
  rename_i hnumber
  refine Triple.bind (triple_covers_find w id) fun stored? => ?_
  cases stored? with
  | none => exact Triple.pure fun _ h => Bare.covers h
  | some stored =>
      refine Triple.bind (triple_covers_load w stored) fun x => ?_
      simp only
      split
      · exact Triple.throw fun _ h => h.holds.covers
      refine Triple.bind (Triple.inPhase _ (triple_removeVolume x hnumber)) fun _ => ?_
      exact Triple.bind (triple_store w (x.1.withoutVolume number) _ _) fun _ =>
        (readOnly_get w id).keeps _

/-- **Every operation on an endpoint keeps its configuration covered**, whether it succeeds or
fails. -/
theorem covers_after (op : Operation p) (hop : op.identity? = some id) {c : Cluster}
    (hc : Covers id c) : Covers id (op.after w c) := by
  cases op with
  | list => cases hop
  | get id =>
      cases hop
      exact ((readOnly_get w id).keeps _).state hc
  | create requested =>
      cases hop
      exact (keeps_covers_create w requested).state hc
  | start id =>
      cases hop
      exact (keeps_covers_start w).state hc
  | stop id =>
      cases hop
      exact (keeps_covers_stop w).state hc
  | delete id =>
      cases hop
      exact (keeps_covers_delete w).state hc
  | addVolume id v =>
      cases hop
      exact (keeps_covers_addVolume w v).state hc
  | deleteVolume id number =>
      cases hop
      exact (keeps_covers_deleteVolume w number).state hc

end Operation

end FailoverStorage

import FailoverStorage.Proofs.Gateway.Calls

/-!
# Runs that are interrupted

Switches can be set at any time, so also between the calls of one operation, and a call may fail at
any of these moments (`Cluster.Interrupted`).

What such runs keep is checked call by call.  `Operation.Lasting id holds P` says that each call
that an operation on an endpoint can make keeps `P`, where every configuration that is stored for
the endpoint satisfies `holds`; then so does the whole operation, however it is interrupted
(`Operation.Lasting.run`).  Only one thing is passed from one call to the next: what is found
belongs to the endpoint and satisfies `holds`.  In this sense it lasts that nothing but the endpoint
is touched (`Operation.within_run`).
-/

namespace FailoverStorage

open FailoverStorage.Action

/-! ## Texts of an endpoint -/

namespace Cluster

/-- **The text of an id, if there is one**, is a configuration that belongs to it and to a name, and
about which something holds. -/
def OwnTextWith (holds : PromoterConfig → Prop) (id name : String) (c : Cluster) : Prop :=
  ∀ text, c.configs.find? (PromoterConfig.pathOf id) = some text →
    ∃ config : PromoterConfig, config.Belongs id name ∧ holds config
      ∧ text.content = config.toToml

end Cluster

/-! ## What every call keeps -/

namespace Operation

variable {p : Protocol} {id : p.Identity} {holds : PromoterConfig → Prop} {P : Cluster → Prop}

/-- **Every call that an operation on an endpoint can make keeps `P`**, and so does every switch;
the text of the endpoint is a configuration about which `holds`. -/
structure Lasting (id : p.Identity) (holds : PromoterConfig → Prop) (P : Cluster → Prop) :
    Prop where
  switch : ∀ (x : Switch) c, P c → P (x.set c)
  stored : ∀ c, P c →
    Cluster.OwnTextWith holds (Protocol.configId id) (Protocol.resourceName id) c
  written : ∀ (e : Endpoint p) placements config, e.configId = Protocol.configId id →
    e.toPromoter placements = .ok config → holds config
  placements : Keeps P (Cluster.placements (Protocol.resourceName id))
  ensureResource : ∀ (request : ResourceRequest) mayExtend,
    request.name = Protocol.resourceName id → request.resourceGroup ≠ "" →
      Keeps P (Cluster.ensureResource request mayExtend)
  deleteResource : Keeps P (Cluster.deleteResource (Protocol.resourceName id))
  deleteVolume : ∀ number, Keeps P (Cluster.deleteVolume (Protocol.resourceName id) number)
  ensureConfig : ∀ config : PromoterConfig,
    config.Belongs (Protocol.configId id) (Protocol.resourceName id) → holds config →
      Keeps P (Cluster.ensureConfig config)
  attach : ∀ config : PromoterConfig,
    config.Belongs (Protocol.configId id) (Protocol.resourceName id) → holds config →
      Keeps P (Cluster.attach config)
  detach : ∀ config : PromoterConfig,
    config.Belongs (Protocol.configId id) (Protocol.resourceName id) → holds config →
      Keeps P (Cluster.detach config)
  deleteConfig : Keeps P (Cluster.deleteConfig (Protocol.configId id))

/-- A predicate on recorded states that looks at the state alone. -/
abbrev AtState (P : Cluster → Prop) : Recorded Cluster → Prop := fun x => P x.1

variable (w : Waiter) (switches : Nat → Switch)

/-! ## Reading and waiting -/

section

variable {α : Type} (hswitch : ∀ (x : Switch) c, P c → P (x.set c))

include hswitch

/-- A call keeps what the action and every switch keep. -/
lemma triple_recorded {a : Action Cluster α} {Q : α → Cluster → Prop} {R : Cluster → Prop}
    (h : Triple P a Q R) : Triple (AtState P) (a.recorded (Switch.each switches))
      (fun x => AtState (Q x)) (AtState R) := by
  rintro ⟨c, calls⟩ hc
  obtain ⟨hok, herror⟩ := h _ (hswitch (switches calls.length) c hc)
  refine ⟨fun x t hrun => ?_, fun err t hrun => ?_⟩
  · obtain ⟨hresult, rfl⟩ := Prod.mk.inj hrun
    exact hok x _ (Prod.ext hresult rfl)
  · obtain ⟨hresult, rfl⟩ := Prod.mk.inj hrun
    exact herror err _ (Prod.ext hresult rfl)

lemma keeps_read {a : Action Cluster α} (h : ReadOnly a) :
    Keeps (AtState P) (a.recorded (Switch.each switches)) :=
  triple_recorded switches hswitch (h.keeps P)

lemma readsKeep_recorder : (recorder w switches).backend.ReadsKeep (AtState P) where
  deployed := fun name => keeps_read switches hswitch (Cluster.readOnly_deployed name)
  find := fun id => keeps_read switches hswitch (Cluster.readOnly_findConfig id)
  list := keeps_read switches hswitch Cluster.readOnly_listConfigs

/-- Waiting keeps what reading placements and every switch keep. -/
lemma keeps_run_await {name : String} (hread : Keeps P (Cluster.placements name)) (goal : String)
    (done : List Placement → Bool) :
    Keeps (AtState P) ((recorder w switches).await name goal done) :=
  Gateway.keeps_await (g := recorder w switches) (triple_recorded switches hswitch hread) goal done

/-- **An operation about no endpoint** keeps what every switch keeps. -/
lemma run_of_identity?_eq_none {op : Operation p} (hop : op.identity? = none) {c : Cluster}
    (hc : P c) : P (op.run w switches c).1 := by
  cases op with
  | list =>
      exact (Gateway.keeps_list (readsKeep_recorder w switches hswitch)).state (s := (c, [])) hc
  | _ => cases hop

end

/-! ## Operations -/

namespace Lasting

variable (h : Lasting id holds P)

include h

/-- What is found belongs to the endpoint, and satisfies what its text does. -/
lemma findConfig : Triple P (Cluster.findConfig (Protocol.configId id))
    (fun stored? c => (∀ stored, stored? = some stored →
      stored.config.Belongs (Protocol.configId id) (Protocol.resourceName id)
        ∧ holds stored.config) ∧ P c) P := by
  intro c hc
  rw [Cluster.findConfig_apply]
  refine ⟨fun stored? t hrun => ?_, fun err t hrun => ?_⟩
  · obtain ⟨hread, rfl⟩ := Prod.mk.inj hrun
    refine ⟨fun stored hstored => ?_, hc⟩
    subst hstored
    cases htext : c.configs.find? (PromoterConfig.pathOf (Protocol.configId id)) with
    | none =>
        rw [htext] at hread
        cases hread
    | some text =>
        obtain ⟨config, hbelongs, hholds, hcontent⟩ := h.stored c hc text htext
        rw [htext, Cluster.readStored, hcontent, hbelongs.reads] at hread
        cases hread
        exact ⟨hbelongs, hholds⟩
  · obtain ⟨-, rfl⟩ := Prod.mk.inj hrun
    exact hc

lemma find : Triple (AtState P) ((recorder w switches).find id)
    (fun stored? c => (∀ stored, stored? = some stored →
      stored.config.Belongs (Protocol.configId id) (Protocol.resourceName id)
        ∧ holds stored.config) ∧ AtState P c) (AtState P) :=
  Triple.inPhase _ (triple_recorded switches h.switch h.findConfig)

/-- **Starting and stopping** are one argument. -/
lemma change {change : PromoterConfig → Action Cluster Unit}
    (hchange : ∀ config : PromoterConfig,
      config.Belongs (Protocol.configId id) (Protocol.resourceName id) → holds config →
        Keeps P (change config)) (phase goal : String) (done : List Placement → Bool) :
    Keeps (AtState P) (do
      match ← (recorder w switches).find id with
      | none => return none
      | some stored =>
        ((change stored.config).recorded (Switch.each switches)).inPhase
          (phase ++ stored.config.id)
        (recorder w switches).await (Protocol.resourceName id) goal done
        (recorder w switches).get id) := by
  refine Triple.bind (h.find w switches) fun stored? => Triple.of_forall fun hfound => ?_
  cases stored? with
  | none => exact (readOnly_pure _).keeps _
  | some stored =>
      obtain ⟨hbelongs, hholds⟩ := hfound stored rfl
      refine Triple.bind (Triple.inPhase _ (triple_recorded switches h.switch
        (hchange stored.config hbelongs hholds))) fun _ => ?_
      exact Triple.bind (keeps_run_await w switches h.switch h.placements goal done) fun _ =>
        Gateway.keeps_get (readsKeep_recorder w switches h.switch) id

lemma store (e : Endpoint p) (he : e.configId = Protocol.configId id)
    (placements : List Placement) (verb : String) :
    Keeps (AtState P) ((recorder w switches).store e placements verb) := by
  have hname : e.resourceName = Protocol.resourceName id := (Protocol.configId_inj he).2
  refine Triple.bind (Triple.ofExcept (Q := fun config c =>
    (config.Belongs (Protocol.configId id) (Protocol.resourceName id) ∧ holds config)
      ∧ AtState P c) (fun config c hconfig hc => ⟨⟨?_, h.written e _ config he hconfig⟩, hc⟩)
    fun _ hc => hc) fun config => Triple.of_forall fun hconfig => ?_
  · rw [← he, ← hname]
    exact PromoterConfig.belongs_of_toPromoter hconfig
  · exact Triple.inPhase _ (triple_recorded switches h.switch
      (h.ensureConfig config hconfig.1 hconfig.2))

lemma create (requested : Endpoint p) (hid : requested.identity = id) :
    Keeps (AtState P) ((recorder w switches).create requested) := by
  subst hid
  refine Triple.bind ((readOnly_ofExcept _).keeps _) fun _ => ?_
  have hreads := readsKeep_recorder w switches h.switch
  refine Triple.bind (Gateway.keeps_checkExclusive hreads _) fun _ => ?_
  refine Triple.bind (Gateway.keeps_find hreads _) fun stored? => ?_
  cases stored? with
  | some stored =>
      refine Triple.bind (Gateway.keeps_load hreads stored _) fun x => ?_
      simp only
      split
      · exact (readOnly_pure _).keeps _
      · exact (readOnly_throw _).keeps _
  | none =>
      refine Triple.bind (Triple.inPhase _ (triple_recorded switches h.switch
        (h.ensureResource _ false rfl (Endpoint.resourceGroup_fillDefaults requested))))
        fun deployment => ?_
      refine Triple.bind (h.store w switches requested.fillDefaults rfl _ _) fun _ => ?_
      refine Triple.bind (h.change w switches h.attach _ _ _) fun started => ?_
      cases started with
      | some e => exact (readOnly_pure _).keeps _
      | none => exact (readOnly_throw _).keeps _

lemma delete : Keeps (AtState P) ((recorder w switches).delete id) := by
  refine Triple.bind (Triple.inPhase _ (triple_recorded switches h.switch h.deleteConfig))
    fun _ => ?_
  refine Triple.bind (keeps_run_await w switches h.switch h.placements _ _) fun _ =>
    Triple.inPhase _ ?_
  exact Triple.orAbsent (triple_recorded switches h.switch h.deleteResource) (fun _ hc => hc)
    fun _ hc => hc

lemma withVolume {e : Endpoint p} (he : e.configId = Protocol.configId id)
    (deployed : DeployedState) (v : Volume) :
    Triple (AtState P) ((recorder w switches).withVolume id e deployed v)
      (fun x c => x.1.configId = Protocol.configId id ∧ AtState P c) (AtState P) := by
  rw [Gateway.withVolume]
  split
  · split
    · exact Triple.pure fun _ hc => ⟨he, hc⟩
    · exact Triple.throw fun _ hc => hc
  split
  · exact Triple.throw fun _ hc => hc
  refine Triple.bind ((readOnly_ofExcept _).keeps _) fun _ => ?_
  refine Triple.bind (Triple.inPhase _ (triple_recorded switches h.switch
    (h.ensureResource _ true (Protocol.configId_inj he).2
      (Endpoint.resourceGroup_fillDefaults _)))) fun deployment => ?_
  exact Triple.pure fun _ hc => ⟨he, hc⟩

lemma addVolume (v : Volume) : Keeps (AtState P) ((recorder w switches).addVolume id v) := by
  refine Triple.bind ((readOnly_ofExcept _).keeps _) fun _ => ?_
  refine Triple.bind (h.find w switches) fun stored? => Triple.of_forall fun hfound => ?_
  cases stored? with
  | none => exact (readOnly_pure _).keeps _
  | some stored =>
      refine Triple.bind (triple_load (readsKeep_recorder w switches h.switch) stored _) fun x =>
        Triple.of_forall fun hx => ?_
      have hid := hx.trans (hfound stored rfl).1.hasId
      refine Triple.bind (h.withVolume w switches hid _ v) fun y => Triple.of_forall fun hy => ?_
      exact Triple.bind (h.store w switches y.1 hy _ _) fun _ =>
        Gateway.keeps_get (readsKeep_recorder w switches h.switch) id

lemma removeVolume (number : UInt32) :
    Keeps (AtState P) ((recorder w switches).deleteVolume id number) := by
  rw [Gateway.deleteVolume]
  split
  · exact (readOnly_throw _).keeps _
  refine Triple.bind (h.find w switches) fun stored? => Triple.of_forall fun hfound => ?_
  cases stored? with
  | none => exact (readOnly_pure _).keeps _
  | some stored =>
      refine Triple.bind (triple_load (readsKeep_recorder w switches h.switch) stored _) fun x =>
        Triple.of_forall fun hx => ?_
      have hid := hx.trans (hfound stored rfl).1.hasId
      simp only
      split
      · exact (readOnly_throw _).keeps _
      refine Triple.bind (Triple.inPhase _ (Triple.orAbsent (triple_recorded switches h.switch
        (h.deleteVolume number)) (fun _ hc => hc) fun _ hc => hc)) fun _ => ?_
      exact Triple.bind (h.store w switches (x.1.withoutVolume number) hid _ _) fun _ =>
        Gateway.keeps_get (readsKeep_recorder w switches h.switch) id

/-- **What every call keeps is kept by every operation**, whether it succeeds or fails and however
it is interrupted. -/
theorem run (op : Operation p) (hop : op.identity? = some id) {c : Cluster} (hc : P c) :
    P (op.run w switches c).1 := by
  cases op with
  | list => cases hop
  | get id =>
      cases hop
      exact (Gateway.keeps_get (readsKeep_recorder w switches h.switch) _).state
        (s := (c, [])) hc
  | create requested =>
      cases hop
      exact (h.create w switches requested rfl).state (s := (c, [])) hc
  | start id =>
      cases hop
      exact (h.change w switches h.attach _ _ _).state (s := (c, [])) hc
  | stop id =>
      cases hop
      exact (h.change w switches h.detach _ _ _).state (s := (c, [])) hc
  | delete id =>
      cases hop
      exact (h.delete w switches).state (s := (c, [])) hc
  | addVolume id v =>
      cases hop
      exact (h.addVolume w switches v).state (s := (c, [])) hc
  | deleteVolume id number =>
      cases hop
      exact (h.removeVolume w switches number).state (s := (c, [])) hc

end Lasting

/-! ## Two things that last -/

/-- What does not change a text keeps what holds of it. -/
lemma keeps_ownTextWith_of_storage {α : Type} {cid name other : String} {a : Action Cluster α}
    (h : ∀ c, Cluster.SameOutside none other c (a c).2) :
    Keeps (Cluster.OwnTextWith holds cid name) a :=
  Triple.of_state fun c hc text htext => hc text (by rwa [(h c).find?_configs] at htext)

/-- A configuration of the endpoint about which something holds takes the place of another. -/
lemma ownTextWith_insert {cid name : String} {config : PromoterConfig}
    (hbelongs : config.Belongs cid name) (hholds : holds config) {attached : Bool} {s t : Cluster}
    (ht : t.configs = s.configs.insert config.path { content := config.toToml, attached }) :
    Cluster.OwnTextWith holds cid name t := by
  intro text htext
  obtain rfl := hbelongs.hasId
  rw [ht, PromoterConfig.path, SortedMap.find?_insert, if_pos rfl] at htext
  cases htext
  exact ⟨config, hbelongs, hholds, rfl⟩

/-- Detaching leaves every text. -/
lemma ownTextWith_detach {cid name : String} (config : PromoterConfig) {s : Cluster}
    (h : Cluster.OwnTextWith holds cid name s) :
    Cluster.OwnTextWith holds cid name (Cluster.detach config s).2 := by
  intro text htext
  have hcontent := Cluster.content_detach config s (PromoterConfig.pathOf cid)
  rw [htext, Option.map_some] at hcontent
  obtain ⟨old, hold, heq⟩ := Option.map_eq_some_iff.1 hcontent.symm
  obtain ⟨stored, hbelongs, hholds, hread⟩ := h old hold
  exact ⟨stored, hbelongs, hholds, by rw [← heq, hread]⟩

/-- **What every configuration of the endpoint satisfies, its text goes on to satisfy.** -/
lemma lasting_ownTextWith
    (hwritten : ∀ (e : Endpoint p) placements config, e.configId = Protocol.configId id →
      e.toPromoter placements = .ok config → holds config) :
    Lasting id holds
      (Cluster.OwnTextWith holds (Protocol.configId id) (Protocol.resourceName id)) where
  switch := fun x c hc => hc
  stored := fun c hc => hc
  written := hwritten
  placements := keeps_ownTextWith_of_storage fun c => Cluster.sameOutside_placements none _ c
  ensureResource := fun request mayExtend _ _ => keeps_ownTextWith_of_storage fun c =>
    Cluster.sameOutside_ensureResource none request mayExtend c
  deleteResource := keeps_ownTextWith_of_storage fun c =>
    Cluster.sameOutside_deleteResource none _ c
  deleteVolume := fun number => keeps_ownTextWith_of_storage fun c =>
    Cluster.sameOutside_deleteVolume none _ number c
  ensureConfig := fun config hbelongs hholds => Triple.of_state fun c _ =>
    ownTextWith_insert hbelongs hholds (Cluster.configs_ensureConfig config c)
  attach := fun config hbelongs hholds => Triple.of_state fun c _ =>
    ownTextWith_insert hbelongs hholds (Cluster.configs_attach config c)
  detach := fun config _ _ => Triple.of_state fun c hc => ownTextWith_detach config hc
  deleteConfig := Triple.of_state fun c _ text htext => by
    rw [Cluster.deleteConfig_apply, Cluster.find?_withoutConfig] at htext
    cases htext

/-- An action within an endpoint is within it, too, if transitions were held up or released
before. -/
lemma keeps_within_of_switched {α : Type} {a : Action Cluster α} (s : Cluster)
    (h : ∀ t, Keeps (Within id t) a) :
    Keeps (fun c => Within id { s with stalled := c.stalled } c) a :=
  Triple.of_state fun c hc => by
    obtain ⟨hsame, hown⟩ := (h c).state ⟨.refl _ _ c, hc.2⟩
    rw [hsame.stalled]
    exact ⟨hc.1.trans hsame, hown⟩

/-- **That nothing else is touched lasts**, but for what switches say. -/
lemma lasting_within (s : Cluster) :
    Lasting id (fun _ => True) fun c => Within id { s with stalled := c.stalled } c where
  switch := fun x c ⟨hsame, hown⟩ =>
    ⟨⟨hsame.nodes, hsame.groups, hsame.transitionPolls, rfl, hsame.resources, hsame.configs⟩, hown⟩
  stored := fun c hc text htext => by
    obtain ⟨config, hbelongs, hcontent⟩ := hc.2 text htext
    exact ⟨config, hbelongs, trivial, hcontent⟩
  written := fun _ _ _ _ _ => trivial
  placements := keeps_within_of_switched s fun _ => keeps_within_placements
  ensureResource := fun _ mayExtend hname _ =>
    keeps_within_of_switched s fun _ => keeps_within_ensure hname mayExtend
  deleteResource := keeps_within_of_switched s fun _ =>
    Cluster.keeps_confined_of_storage fun t => Cluster.sameOutside_deleteResource none _ t
  deleteVolume := fun number => keeps_within_of_switched s fun _ =>
    Cluster.keeps_confined_of_storage fun t => Cluster.sameOutside_deleteVolume none _ number t
  ensureConfig := fun _ hbelongs _ =>
    keeps_within_of_switched s fun _ => Cluster.keeps_confined_ensureConfig hbelongs
  attach := fun _ hbelongs _ =>
    keeps_within_of_switched s fun _ => Cluster.keeps_confined_attach hbelongs
  detach := fun _ hbelongs _ =>
    keeps_within_of_switched s fun _ => Cluster.keeps_confined_detach hbelongs
  deleteConfig := keeps_within_of_switched s fun _ => Cluster.keeps_confined_deleteConfig

/-- **An operation touches only its endpoint**, however it is interrupted. -/
theorem within_run (op : Operation p) (hop : op.identity? = some id) {c : Cluster}
    (hc : Cluster.OwnText (Protocol.configId id) (Protocol.resourceName id) c) :
    Within id { c with stalled := (op.run w switches c).1.stalled } (op.run w switches c).1 :=
  (lasting_within c).run w switches op hop ⟨.refl _ _ c, hc⟩

end Operation

/-! ## The texts of a run -/

namespace Cluster

open Operation

/-- **Each stored text is that of a configuration of an endpoint**, about which something holds that
may depend on the protocol. -/
def OwnTextsWith (holds : Protocol → PromoterConfig → Prop) (c : Cluster) : Prop :=
  ∀ path text, c.configs.find? path = some text →
    ∃ (p : Protocol) (id : p.Identity) (config : PromoterConfig),
      path = PromoterConfig.pathOf (Protocol.configId id)
        ∧ config.Belongs (Protocol.configId id) (Protocol.resourceName id)
        ∧ holds p config ∧ text.content = config.toToml

variable {holds : Protocol → PromoterConfig → Prop} {c : Cluster}

/-- The text at the path of an endpoint is of its protocol. -/
lemma OwnTextsWith.ownTextWith (h : OwnTextsWith holds c) {p : Protocol} (id : p.Identity) :
    OwnTextWith (holds p) (Protocol.configId id) (Protocol.resourceName id) c := by
  intro text htext
  obtain ⟨q, other, config, hpath, hbelongs, hholds, hcontent⟩ := h _ text htext
  obtain ⟨rfl, hname⟩ := Protocol.configId_inj (PromoterConfig.pathOf_inj hpath)
  rw [← PromoterConfig.pathOf_inj hpath, ← hname] at hbelongs
  exact ⟨config, hbelongs, hholds, hcontent⟩

/-- **What every configuration of a protocol satisfies, every stored text of a run satisfies.** -/
theorem Interrupted.ownTextsWith {allowed : Protocol → Prop} (hc : Interrupted allowed c)
    (hwritten : ∀ (p : Protocol) (e : Endpoint p) placements config,
      e.toPromoter placements = .ok config → holds p config) : OwnTextsWith holds c := by
  induction hc with
  | fresh nodes groups polls hgroups => exact fun path text htext => nomatch htext
  | @operate c q hc _ op w switches ih =>
      cases hop : op.identity? with
      | none => exact run_of_identity?_eq_none w switches (fun _ _ h => h) hop ih
      | some id =>
          intro path text htext
          by_cases hpath : path = PromoterConfig.pathOf (Protocol.configId id)
          · subst hpath
            have hown := (lasting_ownTextWith fun e placements config _ =>
              hwritten q e placements config).run w switches op hop (ih.ownTextWith id)
            obtain ⟨config, hbelongs, hholds, hcontent⟩ := hown text htext
            exact ⟨q, id, config, rfl, hbelongs, hholds, hcontent⟩
          · have hsame := (within_run w switches op hop (hc.ownTexts q id)).1
            rw [hsame.configs path fun heq => hpath (Option.some.inj heq)] at htext
            exact ih path text htext
  | switch _ x ih => exact ih
  | setDiskState _ name node number state ih =>
      intro path text htext
      rw [(sameOutside_setDiskState none name node number state _).find?_configs] at htext
      exact ih path text htext

end Cluster

end FailoverStorage

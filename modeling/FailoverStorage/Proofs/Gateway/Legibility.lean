import FailoverStorage.Proofs.Gateway.Creation
import FailoverStorage.Proofs.Gateway.Origins

/-!
# What can be read of a cluster

Whatever stands in the store of configurations was written by an operation, so one may expect that
every operation can read it.  `Cluster.ReachableBy.legible_iff` says how far that is so: every text
is found under the id of the request it was written for, that id fits the template of the request's
protocol alone, and the endpoint in it is decoded, reported and listed exactly if no initiator of
the request contains a blank.

A check of a request passes such initiators.  So a request that is in order can leave an endpoint
behind that is neither reported nor listed (`Operation.illegible_createdCluster`).
-/

namespace FailoverStorage

open FailoverStorage.Action

/-- The name behind a configuration that was written for a request is not empty. -/
lemma WrittenFor.resourceName_ne {asked : (p : Protocol) → Endpoint p → Prop} {p : Protocol}
    {id : p.Identity} {config : PromoterConfig}
    (h : WrittenFor asked (Protocol.configId id) config) : Protocol.resourceName id ≠ "" := by
  obtain ⟨requested, -, hid, e, placements, hstems, -⟩ := h.exists_request
  have hcheck := hstems.shaped.name
  rw [hstems.resourceName hid] at hcheck
  intro hempty
  rw [hempty] at hcheck
  cases hcheck

/-! ## Listing -/

namespace Operation

variable {p : Protocol} (w : Waiter)

/-- The endpoint of a stored configuration, if it is one of the protocol and can be read. -/
def readEndpoint (p : Protocol) (c : Cluster) (stored : StoredConfig) : Option (Endpoint p) :=
  (p.resourceOfConfigId stored.config.id).bind fun resource =>
    (Gateway.reconstruct p stored (Cluster.deployment resource c)).toOption

lemma readEndpoint_eq_some_iff {c : Cluster} {stored : StoredConfig} {e : Endpoint p} :
    readEndpoint p c stored = some e
      ↔ ∃ resource, p.resourceOfConfigId stored.config.id = some resource
        ∧ Gateway.reconstruct p stored (Cluster.deployment resource c) = .ok e := by
  simp only [readEndpoint, Option.bind_eq_some_iff, toOption_eq_some_iff]

lemma endpointsOf_apply (configs : List StoredConfig) (c : Cluster) :
    (gateway w).endpointsOf p configs c = (.ok (configs.filterMap (readEndpoint p c)), c) := by
  induction configs with
  | nil => rfl
  | cons stored rest ih =>
      rw [Gateway.endpointsOf, List.filterMap_cons, readEndpoint]
      cases p.resourceOfConfigId stored.config.id with
      | none => exact ih
      | some resource =>
          have hdeployed : Action.getD ((gateway w).backend.storage.deployed resource) {} c
              = (.ok (Cluster.deployment resource c), c) := by
            rw [Action.getD, show (gateway w).backend.storage.deployed resource c
              = (.ok (Cluster.deployment resource c), c) from Cluster.deployed_apply resource c]
          simp only [Option.bind_some]
          rw [bind_apply_ok hdeployed, bind_apply_ok ih]
          cases Gateway.reconstruct p stored (Cluster.deployment resource c) <;> rfl

/-- **What is listed** are the endpoints that can be read of the texts that can be read. -/
lemma list_apply (c : Cluster) : (gateway w).list p c
    = (.ok ((readableConfigs c).filterMap (readEndpoint p c)), c) := by
  rw [Gateway.list, bind_apply_ok (configs_apply w c), endpointsOf_apply]

/-! ## Reading one text -/

variable {asked : (p : Protocol) → Endpoint p → Prop} {id : p.Identity} {c : Cluster}
  {config : PromoterConfig} {attached : Bool}

/-- What reading a configuration of an endpoint comes to. -/
def decoded (id : p.Identity) (config : PromoterConfig) (c : Cluster) : Except Error (Endpoint p) :=
  Endpoint.ofPromoter p config (Cluster.deployment (Protocol.resourceName id) c).definition
    (Cluster.deployment (Protocol.resourceName id) c).volumeDefinitions

/-- Each text of a rooted cluster is that of a stored configuration. -/
lemma exists_stored (hc : Cluster.Rooted asked c) {path : String} {text : ConfigText}
    (htext : c.configs.find? path = some text) :
    ∃ (q : Protocol) (i : q.Identity) (config : PromoterConfig),
      path = PromoterConfig.pathOf (Protocol.configId i)
        ∧ WrittenFor asked (Protocol.configId i) config ∧ text.content = config.toToml
        ∧ Stored i config text.attached c := by
  obtain ⟨_, config, rfl, hwritten, hcontent⟩ := hc.written path text htext
  have hrequest := hwritten
  obtain ⟨q, requested, -, rfl, -⟩ := hrequest
  have hbelongs : config.Belongs (Protocol.configId requested.identity)
      (Protocol.resourceName requested.identity) := WrittenFor.belongs hwritten
  exact ⟨q, requested.identity, config, rfl, hwritten, hcontent, hbelongs, by
    rw [← hcontent]
    exact htext⟩

/-- Identities with one configuration share what is stored. -/
lemma Stored.congr {other : p.Identity} (h : Stored id config attached c)
    (hid : Protocol.configId id = Protocol.configId other) : Stored other config attached c := by
  obtain ⟨hbelongs, htext⟩ := h
  rw [hid, (Protocol.configId_inj hid).2] at hbelongs
  rw [hid] at htext
  exact ⟨hbelongs, htext⟩

/-- Only one configuration is stored for an endpoint. -/
lemma Stored.unique {config' : PromoterConfig} {attached' : Bool}
    (h : Stored id config attached c) (h' : Stored id config' attached' c) :
    config = config' ∧ attached = attached' := by
  obtain ⟨hcontent, hattached⟩ := ConfigText.mk.inj (Option.some.inj (h.text.symm.trans h'.text))
  have hreads := h.belongs.reads
  rw [hcontent, h'.belongs.reads] at hreads
  exact ⟨(Except.ok.inj hreads).symm, hattached⟩

lemma Stored.findConfig_eq (h : Stored id config attached c) :
    Cluster.findConfig (Protocol.configId id) c
      = (.ok (some (storedAs id config attached)), c) := by
  rw [Cluster.findConfig_apply, h.text, Cluster.readStored, h.belongs.reads]
  rfl

/-- An endpoint is read again by decoding it and adding its status. -/
lemma reconstruct_storedAs (attached : Bool) :
    Gateway.reconstruct p (storedAs id config attached)
        (Cluster.deployment (Protocol.resourceName id) c)
      = (do
        let e ← inPhase ("failed to decode promoter config " ++ config.id) (decoded id config c)
        return { e with
          status := .ofPlacements attached
            (Cluster.deployment (Protocol.resourceName id) c).definition
            (Cluster.deployment (Protocol.resourceName id) c).group
            (Cluster.deployment (Protocol.resourceName id) c).placements }) := rfl

/-- Reading an endpoint again succeeds exactly if its configuration can be decoded. -/
lemma exists_reconstruct_iff (attached : Bool) :
    (∃ e, Gateway.reconstruct p (storedAs id config attached)
      (Cluster.deployment (Protocol.resourceName id) c) = .ok e)
    ↔ ∃ e, decoded id config c = .ok e := by
  rw [reconstruct_storedAs]
  cases decoded id config c with
  | error err => exact ⟨fun ⟨_, h⟩ => (nomatch h), fun ⟨_, h⟩ => nomatch h⟩
  | ok e => exact ⟨fun _ => ⟨e, rfl⟩, fun _ => ⟨_, rfl⟩⟩

lemma Stored.reported_eq (h : Stored id config attached c) : reported id c
    = some <$> Gateway.reconstruct p (storedAs id config attached)
      (Cluster.deployment (Protocol.resourceName id) c) := by
  rw [reported, h.found_eq, ok_bind]

/-- **An endpoint is reported exactly if its configuration can be decoded.** -/
lemma Stored.exists_reported_iff (h : Stored id config attached c) :
    (∃ e, reported id c = .ok (some e)) ↔ ∃ e, decoded id config c = .ok e := by
  rw [← exists_reconstruct_iff attached, h.reported_eq]
  cases Gateway.reconstruct p (storedAs id config attached)
      (Cluster.deployment (Protocol.resourceName id) c) with
  | error err => exact ⟨fun ⟨_, he⟩ => (nomatch he), fun ⟨_, he⟩ => nomatch he⟩
  | ok e => exact ⟨fun _ => ⟨e, rfl⟩, fun _ => ⟨e, rfl⟩⟩

lemma exists_get_iff (id : p.Identity) (c : Cluster) :
    (∃ e, (gateway w).get id c = (.ok (some e), c)) ↔ ∃ e, reported id c = .ok (some e) := by
  rw [get_eq_reported]
  exact exists_congr fun e => ⟨fun h => (Prod.mk.inj h).1, fun h => by rw [h]⟩

/-- What is listed of a rooted cluster was read of a stored configuration: each text is at the path
of its own id, which names the resource. -/
lemma exists_stored_of_readEndpoint (hc : Cluster.Rooted asked c) {stored : StoredConfig}
    (hstored : stored ∈ readableConfigs c) {e : Endpoint p}
    (he : readEndpoint p c stored = some e) :
    ∃ (i : p.Identity) (config : PromoterConfig) (attached : Bool), Stored i config attached c
      ∧ Gateway.reconstruct p (storedAs i config attached)
        (Cluster.deployment (Protocol.resourceName i) c) = .ok e := by
  obtain ⟨path, config, attached⟩ := stored
  obtain ⟨text, htext, hreadable, rfl⟩ := mem_readableConfigs.1 hstored
  obtain ⟨resource, hname, hread⟩ := readEndpoint_eq_some_iff.1 he
  obtain ⟨q, i, config', rfl, -, hcontent, hother⟩ := exists_stored hc htext
  rw [hcontent, hother.belongs.reads] at hreadable
  cases hreadable
  rw [hother.belongs.hasId] at hname
  obtain ⟨rfl, rfl⟩ := Protocol.tag_append_inj (Protocol.resourceOfConfigId_eq_some_iff.1 hname).1
  exact ⟨i, _, text.attached, hother, hread⟩

/-- **An endpoint is listed exactly if its configuration can be decoded**, in a cluster where each
text was written for a request. -/
lemma Stored.exists_mem_list_iff (h : Stored id config attached c) (hc : Cluster.Rooted asked c)
    (hid : Protocol.resourceName id ≠ "") :
    (∃ es, (gateway w).list p c = (.ok es, c) ∧ ∃ e ∈ es, e.configId = Protocol.configId id)
      ↔ ∃ e, decoded id config c = .ok e := by
  rw [← exists_reconstruct_iff attached, list_apply]
  constructor
  · rintro ⟨es, hes, e, hmem, he⟩
    cases hes
    obtain ⟨stored, hstored, hread⟩ := List.mem_filterMap.1 hmem
    obtain ⟨i, config', attached', hother, hb⟩ := exists_stored_of_readEndpoint hc hstored hread
    have hsame : Protocol.configId i = Protocol.configId id :=
      (hother.belongs.hasId.symm.trans (configId_reconstruct hb).symm).trans he
    obtain ⟨rfl, rfl⟩ := (hother.congr hsame).unique h
    rw [storedAs, hsame, (Protocol.configId_inj hsame).2] at hb
    exact ⟨e, hb⟩
  · rintro ⟨e, he⟩
    refine ⟨_, rfl, e, List.mem_filterMap.2 ⟨storedAs id config attached,
      mem_readableConfigs.2 ⟨_, h.text, h.belongs.reads, rfl⟩, ?_⟩, ?_⟩
    · refine readEndpoint_eq_some_iff.2 ⟨Protocol.resourceName id, ?_, he⟩
      rw [show (storedAs id config attached).config.id = _ from h.belongs.hasId]
      exact (Protocol.resourceOfConfigId_configId hid).2 ⟨rfl, rfl⟩
    · exact (configId_reconstruct he).trans h.belongs.hasId

end Operation

/-! ## All runs -/

namespace Cluster

open Operation

variable {asked : (p : Protocol) → Endpoint p → Prop} {c : Cluster}

/-- **What every run leaves behind can be found, and read unless an initiator contains a blank.**
Each stored text was written for a request: it is found under the id of that request, which fits the
template of its protocol alone; and the endpoint is decoded with what is deployed, reported and
listed exactly if no initiator of the request contains a blank. -/
theorem ReachableBy.legible_iff (hc : ReachableBy asked c) (w : Waiter) {path : String}
    {text : ConfigText} (htext : c.configs.find? path = some text) :
    ∃ (p : Protocol) (requested : Endpoint p) (config : PromoterConfig), asked p requested
      ∧ config.StemsFrom requested ∧ path = PromoterConfig.pathOf requested.configId
      ∧ findConfig requested.configId c
        = (.ok (some { config, path, attached := text.attached }), c)
      ∧ (∀ (q : Protocol) (name : String), q.resourceOfConfigId config.id = some name
        ↔ q = p ∧ name = requested.resourceName)
      ∧ ((∃ e, Endpoint.ofPromoter p config (deployment requested.resourceName c).definition
          (deployment requested.resourceName c).volumeDefinitions = .ok e)
        ↔ ∀ iqn ∈ Endpoint.initiators requested.settings, Text.IsBlankFree iqn.text)
      ∧ ((∃ e, (gateway w).get requested.identity c = (.ok (some e), c))
        ↔ ∀ iqn ∈ Endpoint.initiators requested.settings, Text.IsBlankFree iqn.text)
      ∧ ((∃ es, (gateway w).list p c = (.ok es, c) ∧ ∃ e ∈ es, e.configId = requested.configId)
        ↔ ∀ iqn ∈ Endpoint.initiators requested.settings, Text.IsBlankFree iqn.text) := by
  have hrooted := hc.rooted
  obtain ⟨p, id, config, rfl, hwritten, -, hstored⟩ := exists_stored hrooted htext
  obtain ⟨requested, hasked, hid, hstems⟩ := hwritten.exists_request
  have hrequested : Stored requested.identity config text.attached c := hstored.congr hid.symm
  have hname : Protocol.resourceName requested.identity ≠ "" := by
    rw [(Protocol.configId_inj hid).2]
    exact hwritten.resourceName_ne
  have hdecoded : (∃ e, decoded requested.identity config c = .ok e)
      ↔ ∀ iqn ∈ Endpoint.initiators requested.settings, Text.IsBlankFree iqn.text := by
    rw [decoded]
    rcases hstems.ofPromoter_cases
      (fun d hd => (hrooted.endpoint requested.identity).legible_deployment hd)
      (deployment (Protocol.resourceName requested.identity) c).volumeDefinitions with
      ⟨hblank, e, he, -⟩ | ⟨hblank, err, herr⟩
    · exact ⟨fun _ => hblank, fun _ => ⟨e, he⟩⟩
    · rw [herr]
      exact ⟨fun ⟨_, h⟩ => (nomatch h), fun h => absurd h hblank⟩
  rw [← hid]
  refine ⟨p, requested, config, hasked, hstems, rfl, hrequested.findConfig_eq, fun q name => ?_,
    hdecoded, ?_, ?_⟩
  · rw [hrequested.belongs.hasId]
    exact Protocol.resourceOfConfigId_configId hname
  · rw [exists_get_iff, hrequested.exists_reported_iff, hdecoded]
  · rw [← hdecoded]
    exact hrequested.exists_mem_list_iff w hrooted hname

end Cluster

namespace Operation

/-! ## Two endpoints -/

/-- A cluster on which one endpoint was created is that of a run in which only it was asked for. -/
lemma reachableBy_createdCluster {p : Protocol} (requested : Endpoint p) :
    Cluster.ReachableBy (fun q other => (⟨q, other⟩ : (q : Protocol) × Endpoint q) = ⟨p, requested⟩)
      (createdCluster requested) :=
  .operate (.fresh _ _ _ fun _ _ h => name_of_find?_groups_empty h) (.create requested)
    (fun _ h => by cases h; rfl) halfSecond

/-- The subsystem of one volume can be read where it was created. -/
theorem legible_createdCluster : ∃ e,
    (gateway halfSecond).get dataNqn (createdCluster plainSubsystem)
      = (.ok (some e), createdCluster plainSubsystem) := by
  obtain ⟨config, r, -, hstands, -⟩ :=
    exists_stands_createdCluster plainSubsystem (by decide) rfl
  have hrun := reachableBy_createdCluster plainSubsystem
  generalize createdCluster plainSubsystem = t at hstands hrun ⊢
  obtain ⟨p, requested, config', hasked, -, -, -, -, -, hget, -⟩ :=
    hrun.legible_iff halfSecond hstands.text
  cases hasked
  exact hget.2 fun _ hiqn => absurd hiqn List.not_mem_nil

/-- A target to which an initiator with a blank in its name may log in. -/
def blankTarget : Endpoint .iscsi :=
  { identity := (⟨"iqn.2020-01.com.example:data", by decide⟩ : Iqn)
    serviceIps := plainSubsystem.serviceIps
    settings :=
      ({ allowedInitiators := [⟨"iqn.2020-01.com.ex ample:init", by decide⟩] } : IscsiSettings)
    volumes := [{ number := 1, sizeKib := 1024 }] }

/-- **A request that passes its check leaves an endpoint behind that nothing can read**: its
configuration is found, but neither decoded nor reported nor listed. -/
theorem illegible_createdCluster : blankTarget.fillDefaults.validate = .ok ()
    ∧ Cluster.Reachable (fun _ => True) (createdCluster blankTarget)
    ∧ ∃ stored err,
      Cluster.findConfig blankTarget.configId (createdCluster blankTarget)
        = (.ok (some stored), createdCluster blankTarget)
      ∧ Protocol.resourceOfConfigId .iscsi stored.config.id = some blankTarget.resourceName
      ∧ Endpoint.ofPromoter .iscsi stored.config
          (Cluster.deployment blankTarget.resourceName (createdCluster blankTarget)).definition
          (Cluster.deployment blankTarget.resourceName
            (createdCluster blankTarget)).volumeDefinitions = .error err
      ∧ (gateway halfSecond).get blankTarget.identity (createdCluster blankTarget)
        = (inPhase ("failed to decode promoter config " ++ stored.config.id) (.error err),
          createdCluster blankTarget)
      ∧ ¬ ∃ es, (gateway halfSecond).list .iscsi (createdCluster blankTarget)
          = (.ok es, createdCluster blankTarget)
        ∧ ∃ e ∈ es, e.configId = blankTarget.configId := by
  have hvalid : blankTarget.fillDefaults.validate = .ok () := by decide
  have hrun := reachableBy_createdCluster blankTarget
  obtain ⟨config, r, -, hstands, hconfig, -⟩ :=
    exists_stands_createdCluster blankTarget hvalid rfl
  generalize createdCluster blankTarget = t at hstands hrun ⊢
  have hname : Protocol.resourceName blankTarget.identity ≠ "" := by decide
  have hblank : ¬ ∀ iqn ∈ Endpoint.initiators blankTarget.fillDefaults.settings,
      Text.IsBlankFree iqn.text := fun h =>
    absurd (h _ List.mem_cons_self ' ' (by decide)) (by decide)
  obtain ⟨err, herr⟩ := Endpoint.ofPromoter_eq_error (Endpoint.settled_fillDefaults hvalid) hblank
    hconfig (Cluster.deployment blankTarget.resourceName t).definition
    (Cluster.deployment blankTarget.resourceName t).volumeDefinitions
  have hstored := hstands.toStored
  refine ⟨hvalid, hrun.reachable, storedAs blankTarget.identity config true, err,
    hstored.findConfig_eq, ?_, herr, ?_, ?_⟩
  · rw [show (storedAs blankTarget.identity config true).config.id = _ from hstored.belongs.hasId]
    exact (Protocol.resourceOfConfigId_configId hname).2 ⟨rfl, rfl⟩
  · rw [get_eq_reported, hstored.reported_eq, reconstruct_storedAs,
      show decoded blankTarget.identity config t = .error err from herr]
    rfl
  · intro hlist
    obtain ⟨e, he⟩ := (hstored.exists_mem_list_iff halfSecond hrun.rooted hname).1 hlist
    cases he.symm.trans herr

end Operation

end FailoverStorage

import FailoverStorage.Proofs.Gateway.Fulfilment
import FailoverStorage.Proofs.Gateway.Interruption

/-!
# One file server in a cluster

Some agents may run only once in a cluster; the one that runs a file server is such an agent.  Only
creating an endpoint looks for it in other configurations, though every operation that starts an
endpoint or changes its volumes stores a configuration, too.  That one look suffices for every run,
however it is interrupted (`Cluster.Interrupted.length_servers_le_one`):

* an exclusive agent gives its protocol away, so storing an endpoint again neither brings the agent
  to a configuration nor takes it away (`Endpoint.hasKind_iff`);
* where no configuration is stored, only an endpoint that passed the check can get one
  (`Operation.find?_run_of_none`).
-/

namespace FailoverStorage

open FailoverStorage.Action

/-! ## Exclusive agents -/

namespace Endpoint

variable {p q : Protocol} {e : Endpoint p} {placements : List Placement}

/-- The kinds of agents that may run more than once. -/
def sharedKinds : List String :=
  [Agent.fileSystemKind, Agent.addressKind, Agent.portBlockKind, Agent.exportKind,
    Agent.iscsiTargetKind, Agent.logicalUnitKind, Agent.subsystemKind, Agent.namespaceKind,
    Agent.nvmePortKind]

lemma exclusiveKind_notMem_sharedKinds {kind : String} (hkind : q.exclusiveKind = some kind) :
    kind ∉ sharedKinds := by
  cases q with
  | iscsi => cases hkind
  | nvmeof => cases hkind
  | nfs =>
      cases hkind
      decide +kernel

/-- The agents of a service are of shared kinds, but for the one that is exclusive. -/
lemma kind_mem_sharedKinds {service : List Agent} (h : serviceAgents e placements = .ok service)
    {a : Agent} (ha : a ∈ service) : a.kind ∈ sharedKinds ∨ p.exclusiveKind = some a.kind := by
  have hfirst : firstKind p ∈ sharedKinds ∨ p.exclusiveKind = some (firstKind p) := by
    cases p with
    | nfs => exact .inr rfl
    | _ => exact .inl (by decide)
  have hvolume : volumeKind p ∈ sharedKinds := by cases p <;> decide
  have hexport : Agent.exportKind ∈ sharedKinds := by decide
  have hport : Agent.nvmePortKind ∈ sharedKinds := by decide
  rcases mem_service_cases h ha with hkind | ⟨v, -, rfl⟩ | ⟨v, -, hmem⟩ | hkind
  · exact hkind ▸ hfirst
  · exact .inl (kind_volumeAgent e placements v ▸ hvolume)
  · exact .inl (kind_of_mem_exportsOf hmem ▸ hexport)
  · exact .inl (hkind ▸ hport)

/-- The service of a protocol has its exclusive agent. -/
lemma exists_kind_serviceAgents {service : List Agent}
    (h : serviceAgents e placements = .ok service) {kind : String}
    (hkind : p.exclusiveKind = some kind) : ∃ a ∈ service, a.kind = kind := by
  obtain ⟨first, hfirst, rfl⟩ := exists_service_eq h
  refine ⟨first, List.mem_append_left _ (List.mem_append_left _ List.mem_cons_self), ?_⟩
  cases p with
  | nfs => exact hfirst.trans (Option.some.inj hkind)
  | _ => cases hkind

/-- **An exclusive agent gives its protocol away**: the configuration of an endpoint has one exactly
if the kind belongs to the protocol of the endpoint. -/
theorem hasKind_iff {config : PromoterConfig} (h : e.toPromoter placements = .ok config)
    {kind : String} (hkind : q.exclusiveKind = some kind) :
    config.hasKind kind = true ↔ p.exclusiveKind = some kind := by
  obtain ⟨service, hservice, rfl⟩ := toPromoter_eq_ok_iff.1 h
  simp only [PromoterConfig.hasKind, agents_single, List.any_eq_true, decide_eq_true_eq]
  constructor
  · rintro ⟨a, ha, rfl⟩
    have hexclusive := exclusiveKind_notMem_sharedKinds hkind
    rcases agentsAround_cases ha with ⟨_, _, rfl⟩ | ⟨_, _, _, _, _, _, rfl⟩ | ⟨_, _, rfl⟩ | ha
    · exact absurd (by simp [sharedKinds, Agent.mount, Agent.ofList]) hexclusive
    · exact absurd (by simp [sharedKinds, Agent.portBlock, Agent.ofList]) hexclusive
    · exact absurd (by simp [sharedKinds, Agent.claim, Agent.ofList]) hexclusive
    · exact (kind_mem_sharedKinds hservice ha).resolve_left hexclusive
  · intro hown
    obtain ⟨a, ha, heq⟩ := exists_kind_serviceAgents hservice hown
    exact ⟨a, List.mem_append_left _ (List.mem_append_right _ ha), heq⟩

end Endpoint

/-! ## Texts with an agent -/

/-- Whether a text is a configuration with an agent of a kind. -/
def ConfigText.hasKind (text : ConfigText) (kind : String) : Bool :=
  match PromoterConfig.ofToml text.content with
  | .ok config => config.hasKind kind
  | .error _ => false

lemma ConfigText.hasKind_eq {text : ConfigText} {config : PromoterConfig}
    (h : PromoterConfig.ofToml text.content = .ok config) (kind : String) :
    text.hasKind kind = config.hasKind kind := by
  rw [ConfigText.hasKind, h]

/-- **A configuration shows its protocol** if it has an exclusive agent exactly if the kind belongs
to the protocol. -/
def PromoterConfig.Shows (p : Protocol) (config : PromoterConfig) : Prop :=
  ∀ (q : Protocol) (kind : String), q.exclusiveKind = some kind →
    (config.hasKind kind = true ↔ p.exclusiveKind = some kind)

/-! ## New configurations -/

namespace Operation

variable {p : Protocol} {id : p.Identity} {c : Cluster} (w : Waiter) (switches : Nat → Switch)

/-- The configurations are still those of a cluster. -/
abbrev SameConfigs (c : Cluster) : Cluster → Prop := fun t => t.configs = c.configs

/-- **The check for exclusive agents** passes only without a rival. -/
lemma triple_run_checkExclusive (id : p.Identity) (c : Cluster) :
    Triple (AtState (SameConfigs c)) ((recorder w switches).checkExclusive id)
    (fun _ t => Unrivalled id c ∧ AtState (SameConfigs c) t) (AtState (SameConfigs c)) := by
  rw [Gateway.checkExclusive]
  cases hexclusive : p.exclusiveKind with
  | none =>
      refine Triple.pure fun t ht => ⟨fun kind hkind => ?_, ht⟩
      cases hexclusive.symm.trans hkind
  | some kind =>
      refine Triple.bind (Q := fun configs t => configs = readableConfigs c
          ∧ AtState (SameConfigs c) t) (Triple.inPhase _ (triple_recorded switches
        (Q := fun configs t => configs = readableConfigs c ∧ SameConfigs c t)
        (fun _ _ ht => ht) fun t ht => ?_)) fun configs => Triple.of_forall fun hconfigs => ?_
      · refine ⟨fun configs u hrun => ?_, fun err u hrun => ?_⟩
        · cases hrun
          have hread : readableConfigs t = readableConfigs c := by
            rw [readableConfigs, readableConfigs, show t.configs = c.configs from ht]
          exact ⟨hread, ht⟩
        · cases hrun
      · subst hconfigs
        simp only
        split
        · rename_i hnone
          refine Triple.pure fun t ht => ⟨fun kind' hkind' stored hstored hid => ?_, ht⟩
          cases hexclusive.symm.trans hkind'
          rw [List.filter_eq_nil_iff] at hnone
          simpa [hid] using hnone stored hstored
        · exact Triple.throw fun _ ht => ht

/-- Where no configuration is stored, none is found. -/
lemma triple_run_find_of_none
    (hnone : c.configs.find? (PromoterConfig.pathOf (Protocol.configId id)) = none) :
    Triple (AtState (SameConfigs c)) ((recorder w switches).find id)
      (fun stored? t => stored? = none ∧ AtState (SameConfigs c) t) (AtState (SameConfigs c)) := by
  refine Triple.inPhase _ (triple_recorded switches
    (Q := fun stored? t => stored? = none ∧ SameConfigs c t) (fun _ _ ht => ht) fun t ht => ?_)
  have hread : Cluster.findConfig (Protocol.configId id) t = (.ok none, t) := by
    rw [Cluster.findConfig_apply, show t.configs = c.configs from ht, hnone]
    rfl
  refine ⟨fun stored? u hrun => ?_, fun err u hrun => ?_⟩
  · cases hread.symm.trans hrun
    exact ⟨rfl, ht⟩
  · cases hread.symm.trans hrun

/-- What goes on only where a configuration is found, leaves the configurations otherwise. -/
lemma keeps_run_bind_find {α : Type}
    (hnone : c.configs.find? (PromoterConfig.pathOf (Protocol.configId id)) = none)
    {f : Option StoredConfig → Action (Recorded Cluster) α} (hf : ReadOnly (f none)) :
    Keeps (AtState (SameConfigs c)) ((recorder w switches).find id >>= f) := by
  refine Triple.bind (triple_run_find_of_none w switches hnone) fun stored? =>
    Triple.of_forall fun hstored => ?_
  subst hstored
  exact hf.keeps _

/-- Deleting an endpoint leaves no configuration. -/
lemma triple_run_delete (id : p.Identity) :
    Triple (AtState fun _ => True) ((recorder w switches).delete id)
      (fun _ => AtState fun t =>
        t.configs.find? (PromoterConfig.pathOf (Protocol.configId id)) = none)
      (AtState fun t =>
        t.configs.find? (PromoterConfig.pathOf (Protocol.configId id)) = none) := by
  have hkeeps : ∀ {α : Type} {a : Action Cluster α},
      (∀ t, Cluster.SameOutside none (Protocol.resourceName id) t (a t).2) →
        Keeps (fun t => t.configs.find? (PromoterConfig.pathOf (Protocol.configId id)) = none) a :=
    fun h => Triple.of_state fun t ht => ((h t).find?_configs _).trans ht
  refine Triple.bind (Triple.inPhase _ (triple_recorded switches (fun _ _ ht => ht)
    (Triple.of_state fun t _ => ?_))) fun _ => ?_
  · show (Cluster.deleteConfig _ t).2.configs.find? _ = none
    rw [Cluster.deleteConfig_apply, Cluster.find?_withoutConfig]
  refine Triple.bind (keeps_run_await w switches (fun _ _ ht => ht)
    (hkeeps fun t => Cluster.sameOutside_placements none _ t) _ _) fun _ => Triple.inPhase _ ?_
  exact Triple.orAbsent (triple_recorded switches (fun _ _ ht => ht)
    (hkeeps fun t => Cluster.sameOutside_deleteResource none _ t)) (fun _ ht => ht) fun _ ht => ht

/-- **Where no configuration is stored**, only an endpoint without a rival can get one. -/
theorem find?_run_of_none (op : Operation p) (hop : op.identity? = some id)
    (hnone : c.configs.find? (PromoterConfig.pathOf (Protocol.configId id)) = none) :
    (op.run w switches c).1.configs.find? (PromoterConfig.pathOf (Protocol.configId id)) = none
      ∨ Unrivalled id c := by
  have hsame : ∀ {α : Type} {b : Action (Recorded Cluster) α},
      Keeps (AtState (SameConfigs c)) b → (b (c, [])).2.1.configs.find?
        (PromoterConfig.pathOf (Protocol.configId id)) = none := fun h => by
    rw [show _ = c.configs from h.state (s := (c, [])) rfl, hnone]
  cases op with
  | list => cases hop
  | get id =>
      cases hop
      exact .inl (hsame (keeps_run_bind_find w switches hnone (readOnly_pure _)))
  | create requested =>
      cases hop
      refine Triple.state (P := AtState (SameConfigs c)) (s := (c, []))
        (R := AtState fun t => t.configs.find?
          (PromoterConfig.pathOf (Protocol.configId requested.identity)) = none
            ∨ Unrivalled requested.identity c) ?_ rfl
      have hleft : ∀ t : Recorded Cluster, AtState (SameConfigs c) t →
          t.1.configs.find? (PromoterConfig.pathOf (Protocol.configId requested.identity)) = none
            ∨ Unrivalled requested.identity c := fun t ht => .inl (by
        rw [show t.1.configs = c.configs from ht, hnone])
      refine Triple.bind (Triple.ofExcept (Q := fun _ => AtState (SameConfigs c))
        (fun _ _ _ ht => ht) hleft) fun _ => ?_
      refine Triple.bind ((triple_run_checkExclusive w switches requested.identity c).imp
        (fun _ ht => ht) (fun _ _ ht => ht) hleft) fun _ => Triple.of_forall fun hunrivalled => ?_
      exact Triple.of_state fun _ _ => .inr hunrivalled
  | start id =>
      cases hop
      exact .inl (hsame (keeps_run_bind_find w switches hnone (readOnly_pure _)))
  | stop id =>
      cases hop
      exact .inl (hsame (keeps_run_bind_find w switches hnone (readOnly_pure _)))
  | delete id =>
      cases hop
      exact .inl ((triple_run_delete w switches id).state (s := (c, [])) trivial)
  | addVolume id v =>
      cases hop
      exact .inl (hsame (Triple.bind ((readOnly_ofExcept _).keeps _) fun _ =>
        keeps_run_bind_find w switches hnone (readOnly_pure _)))
  | deleteVolume id number =>
      cases hop
      refine .inl (hsame ?_)
      rw [Gateway.deleteVolume]
      split
      · exact (readOnly_throw _).keeps _
      · exact keeps_run_bind_find w switches hnone (readOnly_pure _)

end Operation

/-! ## All runs -/

namespace Cluster

open Operation

variable {allowed : Protocol → Prop} {c s t : Cluster}

/-- **Two texts with an agent of one exclusive kind** are one text. -/
def Exclusive (kind : String) (c : Cluster) : Prop :=
  ∀ path path' text text', c.configs.find? path = some text → c.configs.find? path' = some text' →
    text.hasKind kind = true → text'.hasKind kind = true → path = path'

lemma Exclusive.of_configs {kind : String} (h : Exclusive kind s)
    (hconfigs : ∀ path, t.configs.find? path = s.configs.find? path) : Exclusive kind t := by
  intro path path' text text' htext htext'
  rw [hconfigs] at htext htext'
  exact h path path' text text' htext htext'

/-- In a run every stored text shows its protocol. -/
lemma Interrupted.ownTextsWith_shows (hc : Interrupted allowed c) :
    OwnTextsWith PromoterConfig.Shows c :=
  hc.ownTextsWith fun _ _ _ _ hconfig _ _ hkind => Endpoint.hasKind_iff hconfig hkind

variable {p q : Protocol} {id : p.Identity} {kind : String}

/-- The text of an endpoint has an exclusive agent exactly if the kind belongs to its protocol. -/
lemma OwnTextsWith.hasKind_iff (h : OwnTextsWith PromoterConfig.Shows c)
    (hkind : q.exclusiveKind = some kind) {text : ConfigText}
    (htext : c.configs.find? (PromoterConfig.pathOf (Protocol.configId id)) = some text) :
    text.hasKind kind = true ↔ p.exclusiveKind = some kind := by
  obtain ⟨config, hbelongs, hshows, hcontent⟩ := h.ownTextWith id text htext
  rw [ConfigText.hasKind_eq (hcontent ▸ hbelongs.reads), hshows q kind hkind]

/-- **Without a rival** no text at another path has the exclusive agent. -/
lemma OwnTextsWith.eq_of_unrivalled {holds : Protocol → PromoterConfig → Prop}
    (h : OwnTextsWith holds c) (hunrivalled : Unrivalled id c)
    (hkind : p.exclusiveKind = some kind) {path : String} {text : ConfigText}
    (htext : c.configs.find? path = some text) (hhas : text.hasKind kind = true) :
    path = PromoterConfig.pathOf (Protocol.configId id) := by
  obtain ⟨q, other, config, rfl, hbelongs, -, hcontent⟩ := h path text htext
  have hreads : PromoterConfig.ofToml text.content = .ok config := hcontent ▸ hbelongs.reads
  by_contra hpath
  have hid : config.id ≠ Protocol.configId id := fun heq =>
    hpath (congrArg PromoterConfig.pathOf (hbelongs.hasId.symm.trans heq))
  have hnot : config.hasKind kind = false := hunrivalled kind hkind
    { config, path := _, attached := text.attached }
    (mem_readableConfigs.2 ⟨text, htext, hreads, rfl⟩) hid
  rw [ConfigText.hasKind_eq hreads, hnot] at hhas
  cases hhas

/-- **An operation brings an exclusive agent to no second text**, however it is interrupted: storing
an endpoint again leaves its agents to its protocol, and a new text has no rival. -/
theorem Exclusive.run (h : Exclusive kind c) (hc : Interrupted allowed c) (hp : allowed p)
    (hkind : q.exclusiveKind = some kind) (op : Operation p) (w : Waiter)
    (switches : Nat → Switch) : Exclusive kind (op.run w switches c).1 := by
  cases hop : op.identity? with
  | none => exact run_of_identity?_eq_none w switches (fun _ _ hs => hs) hop h
  | some id =>
      have hshows := hc.ownTextsWith_shows
      have hafter := (hc.operate hp op w switches).ownTextsWith_shows
      have hsame := (within_run w switches op hop (hc.ownTexts p id)).1
      -- a text elsewhere and the text of the endpoint cannot both have the agent
      have hsole : ∀ path text own, path ≠ PromoterConfig.pathOf (Protocol.configId id) →
          (op.run w switches c).1.configs.find? path = some text →
          (op.run w switches c).1.configs.find? (PromoterConfig.pathOf (Protocol.configId id))
            = some own →
          text.hasKind kind = true → own.hasKind kind = true → False := by
        intro path text own hpath htext hown hhas hhasOwn
        rw [hsame.configs path fun heq => hpath (Option.some.inj heq)] at htext
        have hexclusive := (hafter.hasKind_iff hkind hown).1 hhasOwn
        cases hold : c.configs.find? (PromoterConfig.pathOf (Protocol.configId id)) with
        | some old =>
            exact hpath (h path _ text old htext hold hhas
              ((hshows.hasKind_iff hkind hold).2 hexclusive))
        | none =>
            rcases find?_run_of_none w switches op hop hold with hnone | hunrivalled
            · cases hown.symm.trans hnone
            · exact hpath (hshows.eq_of_unrivalled hunrivalled hexclusive htext hhas)
      intro path path' text text' htext htext' hhas hhas'
      by_cases hpath : path = PromoterConfig.pathOf (Protocol.configId id)
      · by_cases hpath' : path' = PromoterConfig.pathOf (Protocol.configId id)
        · exact hpath.trans hpath'.symm
        · exact (hsole path' text' text hpath' htext' (hpath ▸ htext) hhas' hhas).elim
      · by_cases hpath' : path' = PromoterConfig.pathOf (Protocol.configId id)
        · exact (hsole path text text' hpath htext (hpath' ▸ htext') hhas hhas').elim
        · rw [hsame.configs path fun heq => hpath (Option.some.inj heq)] at htext
          rw [hsame.configs path' fun heq => hpath' (Option.some.inj heq)] at htext'
          exact h path path' text text' htext htext' hhas hhas'

/-- **In every run two texts with an agent of an exclusive kind are one.** -/
theorem Interrupted.exclusive (hc : Interrupted allowed c) (hkind : q.exclusiveKind = some kind) :
    Exclusive kind c := by
  induction hc with
  | fresh nodes groups polls hgroups => exact fun path path' text text' htext => nomatch htext
  | operate hc hp op w switches ih => exact ih.run hc hp hkind op w switches
  | switch _ x ih => exact ih
  | setDiskState _ name node number state ih =>
      exact ih.of_configs (sameOutside_setDiskState none name node number state _).find?_configs

/-- **One file server in a cluster.**  In every run, however it is interrupted, each stored text can
be read, and at most one of them has an agent that runs a file server. -/
theorem Interrupted.length_servers_le_one (hc : Interrupted allowed c) :
    (∀ x ∈ c.configs.entries, ∃ config, PromoterConfig.ofToml x.2.content = .ok config)
      ∧ (c.configs.entries.filter fun x => x.2.hasKind Agent.nfsServerKind).length ≤ 1 := by
  refine ⟨fun x hx => ?_, ?_⟩
  · obtain ⟨q, id, config, -, hbelongs, -, hcontent⟩ :=
      hc.ownTextsWith_shows _ _ (SortedMap.find?_eq_some_iff.2 hx)
    exact ⟨config, hcontent ▸ hbelongs.reads⟩
  · exact SortedMap.length_filter_le_one fun path path' text text' htext htext' =>
      hc.exclusive (q := .nfs) rfl path path' text text' htext htext'

/-- After the export of one volume was created, there is one file server. -/
theorem length_servers_createdCluster :
    Interrupted (fun _ => True) (createdCluster Endpoint.plainExport)
      ∧ ((createdCluster Endpoint.plainExport).configs.entries.filter
        fun x => x.2.hasKind Agent.nfsServerKind).length = 1 := by
  have hrun : Interrupted (fun _ => True) (createdCluster Endpoint.plainExport) :=
    (reachable_createdCluster trivial _).interrupted
  obtain ⟨config, r, -, hstands, -⟩ :=
    exists_stands_createdCluster Endpoint.plainExport (by decide) rfl
  generalize createdCluster Endpoint.plainExport = t at hstands hrun ⊢
  refine ⟨hrun, Nat.le_antisymm hrun.length_servers_le_one.2 (List.length_pos_of_mem
    (List.mem_filter.2 ⟨SortedMap.find?_eq_some_iff.1 hstands.text, ?_⟩))⟩
  exact (hrun.ownTextsWith_shows.hasKind_iff (q := .nfs) rfl hstands.text).2 rfl

end Cluster

end FailoverStorage

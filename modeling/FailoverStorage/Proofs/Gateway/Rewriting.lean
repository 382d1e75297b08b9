import FailoverStorage.Proofs.Gateway.Creation
import FailoverStorage.Proofs.Promoter.Rewriting

/-!
# Starting rewrites the configuration

Starting an endpoint reads its configuration and attaches it, which stores the configuration again,
in the words of the gateway.  The text that is stored from then on is the document of what was read,
however the wait that follows ends (`Operation.configs_start`).  Of a text that was written by hand
nothing is lost in this way if its agents are plain, and the configuration otherwise
(`Operation.start_rewrites_iff`).
-/

namespace FailoverStorage.Operation

open FailoverStorage.Action

variable {p : Protocol} {id : p.Identity} {config : PromoterConfig} {text : ConfigText}
  {c : Cluster} {m : SortedMap String ConfigText}

lemma keeps_configs_placements (name : String) :
    Keeps (fun s : Cluster => s.configs = m) (Cluster.placements name) :=
  Triple.of_state fun s hs => by
    rw [← hs]
    exact SortedMap.ext_find? (Cluster.sameOutside_placements none name s).find?_configs

/-- What is found under an id is what the text at its path reads as. -/
lemma found_of_content
    (htext : c.configs.find? (PromoterConfig.pathOf (Protocol.configId id)) = some text)
    (hread : PromoterConfig.ofToml text.content = .ok config) :
    found id c = .ok (some
      { config, path := PromoterConfig.pathOf (Protocol.configId id)
        attached := text.attached }) := by
  rw [found, htext, Cluster.readStored, hread]
  rfl

/-- **Starting stores what it read**, whether or not it succeeds, and leaves every other text. -/
lemma configs_start (w : Waiter)
    (htext : c.configs.find? (PromoterConfig.pathOf (Protocol.configId id)) = some text)
    (hread : PromoterConfig.ofToml text.content = .ok config) :
    ((gateway w).start id c).2.configs
      = c.configs.insert config.path { content := config.toToml, attached := true } := by
  have hawait : Keeps (fun s : Cluster => s.configs = c.configs.insert config.path
      { content := config.toToml, attached := true })
      ((gateway w).await (Protocol.resourceName id) "start" Waiter.anyInUse) :=
    Gateway.keeps_await (keeps_configs_placements _) _ _
  show ((start id).after w c).configs = _
  rw [after_start w (found_of_content htext hread)]
  exact hawait.state (Cluster.configs_attach config c)

/-- **When rewriting keeps a configuration.**  A text that can be read, hand-written or not, is read
again from the document of its configuration exactly if all agents are plain: no kind, name or key
needs quotes.  Starting any endpoint whose configuration was stored as this text replaces the text
at the configuration's path by that document, attached, and leaves every other text; so what is
stored there from then on reads as the configuration under the same condition. -/
theorem start_rewrites_iff {s : String} (hread : PromoterConfig.ofToml s = .ok config) :
    (PromoterConfig.ofToml config.toToml = .ok config ↔ ∀ a ∈ config.agents, a.IsPlain)
      ∧ ∀ (p : Protocol) (id : p.Identity) (w : Waiter) (c : Cluster) (attached : Bool),
        c.configs.find? (PromoterConfig.pathOf (Protocol.configId id))
            = some { content := s, attached } →
          ((gateway w).start id c).2.configs
              = c.configs.insert config.path { content := config.toToml, attached := true }
            ∧ ((∃ text, ((gateway w).start id c).2.configs.find? config.path = some text
                ∧ PromoterConfig.ofToml text.content = .ok config)
              ↔ ∀ a ∈ config.agents, a.IsPlain) := by
  have hiff := PromoterConfig.ofToml_toToml_iff hread
  refine ⟨hiff, fun p id w c attached htext => ?_⟩
  have hconfigs := configs_start w htext hread
  refine ⟨hconfigs, ?_⟩
  rw [hconfigs, SortedMap.find?_insert, if_pos rfl, ← hiff]
  simp

/-- Starting fails if the configuration cannot be read again. -/
lemma exists_error_of_start (w : Waiter)
    (htext : c.configs.find? (PromoterConfig.pathOf (Protocol.configId id)) = some text)
    (hread : PromoterConfig.ofToml text.content = .ok config)
    (hid : config.id = Protocol.configId id) {lost : Error}
    (hlost : PromoterConfig.ofToml config.toToml = .error lost) :
    ∃ err, ((gateway w).start id c).1 = .error err := by
  have hconfigs := configs_start w htext hread
  rw [start_apply w (found_of_content htext hread)] at hconfigs ⊢
  rcases hawait : (gateway w).await (Protocol.resourceName id) "start" Waiter.anyInUse
    (Cluster.attach config c).2 with ⟨err | _, u⟩
  · exact ⟨err, by rw [bind_apply_error hawait]⟩
  · rw [bind_apply_ok hawait, get_eq_reported] at hconfigs ⊢
    simp only at hconfigs
    rw [reported, found, hconfigs, PromoterConfig.path, hid, SortedMap.find?_insert, if_pos rfl,
      Cluster.readStored, hlost]
    exact ⟨_, rfl⟩

/-! ## Texts that were written by hand -/

/-- The export that is called `data`. -/
def dataExport : Protocol.Identity .nfs := ("data" : String)

/-- The text of a configuration of that export with an agent line of its own. -/
def handwritten (line : String) : String :=
  "[[promoter]]\nid='nfs-data'\n[promoter.resources.data]\nstart=['ocf:heartbeat:nfsserver s','"
    ++ line ++ "']\n"

/-- A cluster in which a text that was written by hand is stored. -/
def handwrittenCluster (line : String) : Cluster :=
  Cluster.storeText {} (Protocol.configId dataExport) (handwritten line) false

lemma find?_handwrittenCluster (line : String) :
    (handwrittenCluster line).configs.find?
        (PromoterConfig.pathOf (Protocol.configId dataExport))
      = some { content := handwritten line, attached := false } := by
  rw [handwrittenCluster, Cluster.storeText, SortedMap.find?_insert, if_pos rfl]

/-- The configuration of the export with one more agent. -/
def exportWith (a : Agent) : PromoterConfig :=
  { id := "nfs-data"
    resources := SortedMap.empty.insert "data"
      { start := [.ofList Agent.nfsServerKind "s" [], a] } }

/-- Quotes where none are needed are not written again, and nothing is lost. -/
theorem start_rewrites_iff_handwritten :
    PromoterConfig.ofToml (handwritten "\"a\" b \"c=d e\"")
        = .ok (exportWith (.ofList "a" "b" [("c", "d e")]))
      ∧ ∃ text, ((gateway halfSecond).start dataExport
          (handwrittenCluster "\"a\" b \"c=d e\"")).2.configs.find?
            (PromoterConfig.pathOf (Protocol.configId dataExport)) = some text
        ∧ PromoterConfig.ofToml text.content
          = .ok (exportWith (.ofList "a" "b" [("c", "d e")])) := by
  have hread : PromoterConfig.ofToml (handwritten "\"a\" b \"c=d e\"")
      = .ok (exportWith (.ofList "a" "b" [("c", "d e")])) := by
    decide +kernel
  obtain ⟨-, hstart⟩ := start_rewrites_iff hread
  exact ⟨hread, (hstart .nfs dataExport halfSecond _ false (find?_handwrittenCluster _)).2.2
    (by decide +kernel)⟩

/-- **A kind with a blank is lost**: the export is read from a text that has the kind between
quotes.  Starting it fails, and leaves a text from which nothing can be read. -/
theorem start_loses_quoted_kind :
    PromoterConfig.ofToml (handwritten "\"a b\" c")
        = .ok (exportWith (.ofList "a b" "c" []))
      ∧ (∃ e, ((gateway halfSecond).get dataExport
          (handwrittenCluster "\"a b\" c")).1 = .ok (some e))
      ∧ (∃ err, ((gateway halfSecond).start dataExport
          (handwrittenCluster "\"a b\" c")).1 = .error err)
      ∧ ∃ text err, ((gateway halfSecond).start dataExport
          (handwrittenCluster "\"a b\" c")).2.configs.find?
            (PromoterConfig.pathOf (Protocol.configId dataExport)) = some text
        ∧ PromoterConfig.ofToml text.content = .error err := by
  have hread : PromoterConfig.ofToml (handwritten "\"a b\" c")
      = .ok (exportWith (.ofList "a b" "c" [])) := by
    decide +kernel
  obtain ⟨lost, hlost⟩ : ∃ err, PromoterConfig.ofToml
      (exportWith (.ofList "a b" "c" [])).toToml = .error err := by
    have hnone : (PromoterConfig.ofToml
        (exportWith (.ofList "a b" "c" [])).toToml).toOption = none := by
      decide +kernel
    cases h : PromoterConfig.ofToml (exportWith (.ofList "a b" "c" [])).toToml with
    | error err => exact ⟨err, rfl⟩
    | ok c =>
        rw [h] at hnone
        cases hnone
  have htext := find?_handwrittenCluster "\"a b\" c"
  refine ⟨hread, ?_, exists_error_of_start halfSecond htext hread rfl hlost, ?_⟩
  · have hreads : (Gateway.reconstruct .nfs
        { config := exportWith (.ofList "a b" "c" [])
          path := PromoterConfig.pathOf (Protocol.configId dataExport), attached := false }
        (Cluster.deployment (Protocol.resourceName dataExport)
          (handwrittenCluster "\"a b\" c"))).toOption.isSome = true := by decide +kernel
    obtain ⟨e, he⟩ := Option.isSome_iff_exists.1 hreads
    rw [get_eq_reported, reported, found_of_content htext hread, ok_bind]
    dsimp only
    rw [toOption_eq_some_iff.1 he]
    exact ⟨e, rfl⟩
  · rw [configs_start halfSecond htext hread]
    refine ⟨{ content := (exportWith (.ofList "a b" "c" [])).toToml, attached := true }, lost, ?_,
      hlost⟩
    rw [PromoterConfig.path, SortedMap.find?_insert]
    exact if_pos rfl

end FailoverStorage.Operation

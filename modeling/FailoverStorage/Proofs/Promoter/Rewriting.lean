import FailoverStorage.Proofs.Promoter.Document
import FailoverStorage.Proofs.Promoter.Spelling

/-!
# Rewriting documents

A document that was read can be written again, which need not give a document that says the same: a
line may have quotes around any part of it, but only values are written between quotes.  So an agent
whose kind, name or keys have blanks or quotes can be read and is lost when it is written.
`PromoterConfig.ofToml_toToml_iff` says that nothing else is lost: the configuration of a document
is what its own document reads as if and only if all of its agents are plain (`Agent.IsPlain`).
-/

namespace FailoverStorage

/-- **An agent that needs no quotes outside of its values**: its kind, its name and its keys are
words. -/
def Agent.IsPlain (a : Agent) : Prop :=
  IsWord a.kind ∧ IsWord a.name ∧ ∀ key ∈ a.attributes.keys, IsWord key

instance (a : Agent) : Decidable a.IsPlain :=
  have : Decidable (∀ key ∈ a.attributes.keys, Agent.IsWord key) := List.decidableBAll _ _
  inferInstanceAs (Decidable (_ ∧ _ ∧ _))

lemma Agent.Writable.isPlain {a : Agent} (h : a.Writable) : a.IsPlain := by
  refine ⟨h.kind, h.name, fun key hkey => ?_⟩
  obtain ⟨e, he, rfl⟩ := List.mem_map.1 hkey
  exact (h.keys e he).1

/-- An agent that was read from some line can be written if it is plain. -/
lemma Agent.IsPlain.writable {a : Agent} (h : a.IsPlain) {s : String} (hread : ofLine s = .ok a) :
    a.Writable :=
  ⟨h.1, h.2.1, fun e he => ⟨h.2.2 e.1 (List.mem_map_of_mem he), (keys_of_ofLine hread e he).2⟩⟩

namespace PromoterConfig

open Toml

/-! ## Agents of a document -/

/-- Each agent of a resource was read from a line. -/
def FromLines (r : PromotedResource) : Prop := ∀ a ∈ r.start, ∃ s, Agent.ofLine s = .ok a

lemma exists_ofLine_of_readAgent {v : Value} {a : Agent} (h : readAgent v = .ok a) :
    ∃ s, v = .text s ∧ Agent.ofLine s = .ok a := by
  obtain ⟨s, hs, h⟩ := bind_eq_ok_iff.1 h
  have hv : v = .text s := by
    cases v <;> cases hs
    rfl
  cases hread : Agent.ofLine s with
  | error err =>
      rw [hread] at h
      cases h
  | ok agent =>
      rw [hread] at h
      cases h
      exact ⟨s, hv, hread⟩

lemma fromLines_setResourceField {r r' : PromotedResource} {key : String} {v : Value}
    (hr : FromLines r) (h : setResourceField r key v = .ok r') : FromLines r' := by
  rw [setResourceField] at h
  split at h
  · obtain ⟨items, -, h⟩ := bind_eq_ok_iff.1 h
    obtain ⟨start, hstart, h⟩ := bind_eq_ok_iff.1 h
    cases h
    intro a ha
    obtain ⟨item, -, hitem⟩ := exists_of_mem_mapM hstart ha
    obtain ⟨s, -, hread⟩ := exists_ofLine_of_readAgent hitem
    exact ⟨s, hread⟩
  -- every other field leaves the agents
  repeat'
    split at h
    · obtain ⟨value, -, h⟩ := bind_eq_ok_iff.1 h
      cases h
      exact hr
  cases h
  exact hr

lemma fromLines_readResource {v : Value} {r : PromotedResource} (h : readResource v = .ok r) :
    FromLines r := by
  obtain ⟨fields, -, h⟩ := bind_eq_ok_iff.1 h
  exact of_foldlM_eq_ok h (fun _ ha => nomatch ha)
    fun _ _ _ hr hset => fromLines_setResourceField hr hset

lemma fromLines_readResources {v : Value} {m : SortedMap String PromotedResource}
    (h : readResources v = .ok m) : ∀ name r, m.find? name = some r → FromLines r := by
  cases v with
  | table _ entries =>
      refine of_foldlM_eq_ok (P := fun m => ∀ name r, m.find? name = some r → FromLines r) h
        (fun _ _ hr => nomatch hr) fun m e m' hm hstep => ?_
      obtain ⟨read, hread, hstep⟩ := bind_eq_ok_iff.1 hstep
      cases hstep
      intro name r hr
      rw [SortedMap.find?_insert] at hr
      split at hr
      · cases hr
        exact fromLines_readResource hread
      · exact hm name r hr
  | _ => cases h

lemma fromLines_ofValue {v : Value} {c : PromoterConfig} (h : ofValue v = .ok c) :
    ∀ name r, c.resources.find? name = some r → FromLines r := by
  obtain ⟨fields, -, h⟩ := bind_eq_ok_iff.1 h
  obtain ⟨⟨id?, resources⟩, hfields, h⟩ := bind_eq_ok_iff.1 h
  have hresources : ∀ name r, resources.find? name = some r → FromLines r := by
    refine of_foldlM_eq_ok (P := fun c => ∀ name r, c.2.find? name = some r → FromLines r) hfields
      (fun _ _ hr => nomatch hr) fun c e c' hc hset => ?_
    have hset : setField c e.1 e.2 = .ok c' := hset
    rw [setField] at hset
    split at hset
    · obtain ⟨id, -, hset⟩ := bind_eq_ok_iff.1 hset
      cases hset
      exact hc
    split at hset
    · obtain ⟨resources, hread, hset⟩ := bind_eq_ok_iff.1 hset
      cases hset
      exact fromLines_readResources hread
    · cases hset
      exact hc
  cases id? with
  | none => cases h
  | some id =>
      cases h
      exact hresources

/-- **The agents of a configuration that was read** were each read from a line. -/
lemma exists_ofLine_of_ofToml {s : String} {c : PromoterConfig} (h : ofToml s = .ok c) :
    ∀ a ∈ c.agents, ∃ line, Agent.ofLine line = .ok a := by
  have hvalue : ∃ v, ofValue v = .ok c := by
    rw [ofToml] at h
    split at h
    · cases h
    · obtain ⟨configs, hconfigs, h⟩ := bind_eq_ok_iff.1 h
      have hmem : c ∈ configs := by
        rcases configs with _ | ⟨config, _ | ⟨_, _⟩⟩
        · cases h
        · cases h
          exact List.mem_cons_self
        · cases h
      rw [readDocument] at hconfigs
      split at hconfigs
      · cases hconfigs
        cases hmem
      · obtain ⟨items, -, hitems⟩ := bind_eq_ok_iff.1 hconfigs
        obtain ⟨item, -, hitem⟩ := exists_of_mem_mapM hitems hmem
        exact ⟨item, hitem⟩
  obtain ⟨v, hv⟩ := hvalue
  intro a ha
  obtain ⟨r, hr, ha⟩ := List.mem_flatMap.1 ha
  obtain ⟨name, hname⟩ := SortedMap.mem_values_iff.1 hr
  exact fromLines_ofValue hv name r hname a ha

/-! ## Agents that are read again -/

/-- A resource that reads back has agents that can be written. -/
lemma writable_of_readResource {r : PromotedResource}
    (h : readResource (.table .header (bindings r)) = .ok r) : ∀ a ∈ r.start, a.Writable := by
  have hagents : r.start.mapM (readAgent ∘ Value.text ∘ Agent.line) = .ok r.start := by
    obtain ⟨start, stopServicesOnExit, onDemoteFailure, targetAs⟩ := r
    cases hread : start.mapM (readAgent ∘ Value.text ∘ Agent.line) with
    | error err =>
        cases onDemoteFailure <;> cases targetAs <;>
          simp [readResource, readFields, bindings, optionalBinding, setResourceField, readItems,
            hread] at h
    | ok agents =>
        cases onDemoteFailure <;> cases targetAs <;>
          simpa [readResource, readFields, bindings, optionalBinding, setResourceField, readItems,
            readBoolean, readText, hread] using h
  intro a ha
  obtain ⟨s, hs, hread⟩ := exists_ofLine_of_readAgent (forall_of_mapM_eq_ok hagents a ha)
  cases hs
  exact Agent.writable_of_ofLine_line hread

/-- What resources are read as, by the tables that they were written to. -/
lemma exists_of_readResources_tables {entries : List (String × PromotedResource)}
    (hnodup : (entries.map (·.1)).Nodup) {m m' : SortedMap String PromotedResource}
    (h : (entries.map tableOf).foldlM
      (fun m (name, v) => do return m.insert name (← readResource v)) m = .ok m') :
    (∀ name ∉ entries.map (·.1), m'.find? name = m.find? name)
      ∧ ∀ e ∈ entries, ∃ r, readResource (.table .header (bindings e.2)) = .ok r
        ∧ m'.find? e.1 = some r := by
  induction entries generalizing m with
  | nil =>
      cases h
      exact ⟨fun _ _ => rfl, fun _ he => nomatch he⟩
  | cons e entries ih =>
      rw [List.map_cons, List.nodup_cons] at hnodup
      rw [List.map_cons, List.foldlM_cons] at h
      obtain ⟨m₁, hstep, h⟩ := bind_eq_ok_iff.1 h
      obtain ⟨r, hread, hstep⟩ := bind_eq_ok_iff.1 hstep
      cases hstep
      obtain ⟨hothers, hentries⟩ := ih hnodup.2 h
      refine ⟨fun name hname => ?_, fun d hd => ?_⟩
      · rw [List.map_cons, List.mem_cons, not_or] at hname
        rw [hothers name hname.2, SortedMap.find?_insert, if_neg hname.1]
      · rcases List.mem_cons.1 hd with rfl | hd
        · refine ⟨r, hread, ?_⟩
          rw [hothers _ hnodup.1, SortedMap.find?_insert, if_pos rfl]
        · exact hentries d hd

/-- **The agents of a configuration can be written** if it is what its document reads as. -/
lemma writable_of_ofToml_toToml {c : PromoterConfig} (h : ofToml c.toToml = .ok c) :
    ∀ a ∈ c.agents, a.Writable := by
  rw [ofToml_toToml_eq] at h
  obtain ⟨resources, hread, hsame⟩ := map_eq_ok_iff.1 h
  obtain rfl : resources = c.resources := congrArg PromoterConfig.resources hsame
  intro a ha
  obtain ⟨r, hr, ha⟩ := List.mem_flatMap.1 ha
  obtain ⟨name, hname⟩ := SortedMap.mem_values_iff.1 hr
  have hentry := SortedMap.find?_eq_some_iff.1 hname
  have htables : (c.resources.entries.map tableOf).foldlM
      (fun m (name, v) => do return m.insert name (← readResource v))
        (.empty : SortedMap String PromotedResource) = .ok c.resources := by
    cases hentries : c.resources.entries <;> rw [hentries] at hread <;> exact hread
  obtain ⟨r', hr', hfind⟩ :=
    (exists_of_readResources_tables c.resources.nodup_keys htables).2 _ hentry
  obtain rfl : r' = r := Option.some.inj (hfind.symm.trans hname)
  exact writable_of_readResource hr' a ha

/-- **Rewriting keeps exactly the plain configurations**: what was read from some document is what
its own document reads as if and only if all agents are plain. -/
theorem ofToml_toToml_iff {s : String} {c : PromoterConfig} (hread : ofToml s = .ok c) :
    ofToml c.toToml = .ok c ↔ ∀ a ∈ c.agents, a.IsPlain := by
  refine ⟨fun h a ha => (writable_of_ofToml_toToml h a ha).isPlain, fun h => ?_⟩
  refine ofToml_toToml fun a ha => ?_
  obtain ⟨line, hline⟩ := exists_ofLine_of_ofToml hread a ha
  exact (h a ha).writable hline

end PromoterConfig

end FailoverStorage

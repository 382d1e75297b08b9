import FailoverStorage.Proofs.Gateway.Identities

/-!
# Listing and looking up agree

A look-up goes from an identity to a path and to a resource.  A listing goes the other way: it walks
the stored texts in the order of their paths, and takes the resource from the id inside a text.
Nothing in a listing looks at the identity or compares the id with the path.

On its own a listing is a walk that never fails: each text contributes at most one endpoint, to the
listing of at most one protocol (`Operation.list_eq_listed`, `Operation.eq_of_listed`).  That it
shows what look-ups report is a fact about runs, in which every text is at the path of its own id
and the id names the resource (`Operation.reported_of_listed`,
`Operation.exists_listed_of_reported`).  `Operation.list_agrees` has both.
-/

namespace FailoverStorage

open FailoverStorage.Action

/-- The path of the configuration of an endpoint. -/
def Endpoint.path {p : Protocol} (e : Endpoint p) : String := PromoterConfig.pathOf e.configId

namespace Operation

variable {asked : (p : Protocol) → Endpoint p → Prop} {p q : Protocol} {id : p.Identity}
  {e : Endpoint p} {c : Cluster} {path : String} {text : ConfigText}

/-! ## Any cluster -/

/-- **What a stored text contributes** to the listing of a protocol. -/
def listed (p : Protocol) (c : Cluster) (path : String) (text : ConfigText) :
    Option (Endpoint p) :=
  (Cluster.readable path text).bind (readEndpoint p c)

lemma listed_eq_some_iff : listed p c path text = some e
    ↔ ∃ config, PromoterConfig.ofToml text.content = .ok config
      ∧ readEndpoint p c { config, path, attached := text.attached } = some e := by
  rw [listed, Option.bind_eq_some_iff, Cluster.readable]
  cases PromoterConfig.ofToml text.content <;> simp

/-- **A listing never fails.**  It is what the stored texts contribute, in the order of their
paths. -/
lemma list_eq_listed (w : Waiter) (p : Protocol) (c : Cluster) : (gateway w).list p c
    = (.ok (c.configs.entries.filterMap fun x => listed p c x.1 x.2), c) := by
  rw [list_apply, readableConfigs, List.filterMap_filterMap]
  rfl

/-- **A text is listed by one protocol**, since its id fits one template. -/
lemma eq_of_listed {e' : Endpoint q} (h : listed p c path text = some e)
    (h' : listed q c path text = some e') : p = q := by
  obtain ⟨config, hconfig, hread⟩ := listed_eq_some_iff.1 h
  obtain ⟨config', hconfig', hread'⟩ := listed_eq_some_iff.1 h'
  obtain rfl : config = config' := Except.ok.inj (hconfig.symm.trans hconfig')
  obtain ⟨resource, hname, -⟩ := readEndpoint_eq_some_iff.1 hread
  obtain ⟨resource', hname', -⟩ := readEndpoint_eq_some_iff.1 hread'
  have hid := (Protocol.resourceOfConfigId_eq_some_iff.1 hname).1
  have hid' := (Protocol.resourceOfConfigId_eq_some_iff.1 hname').1
  exact (Protocol.tag_append_inj (hid.symm.trans hid')).1

/-! ## Runs -/

/-- **What a text contributes is reported**: in a cluster where each text was written for a request,
it is the endpoint at whose path the text is. -/
lemma reported_of_listed (hc : Cluster.Rooted asked c) (htext : c.configs.find? path = some text)
    (h : listed p c path text = some e) :
    path = e.path ∧ reported e.identity c = .ok (some e) := by
  obtain ⟨config, hconfig, hread⟩ := listed_eq_some_iff.1 h
  obtain ⟨resource, hname, he⟩ := readEndpoint_eq_some_iff.1 hread
  obtain ⟨q, i, _, rfl, -, hcontent, hstored⟩ := exists_stored hc htext
  rw [hcontent, hstored.belongs.reads] at hconfig
  cases hconfig
  -- the id inside the text is that of its path, so it names protocol and resource
  obtain ⟨rfl, rfl⟩ := Protocol.tag_append_inj
    (hstored.belongs.hasId.symm.trans (Protocol.resourceOfConfigId_eq_some_iff.1 hname).1)
  have hid : e.configId = Protocol.configId i :=
    (configId_reconstruct he).trans hstored.belongs.hasId
  refine ⟨(congrArg PromoterConfig.pathOf hid).symm, ?_⟩
  have hreported : reported e.identity c = reported i c := reported_of_configId_eq hid
  rw [hreported, hstored.reported_eq,
    show Gateway.reconstruct q (storedAs i config text.attached)
      (Cluster.deployment (Protocol.resourceName i) c) = .ok e from he]
  rfl

/-- **What is reported is contributed** by the text at its path. -/
lemma exists_listed_of_reported (hc : Cluster.Rooted asked c)
    (h : reported id c = .ok (some e)) :
    ∃ text, c.configs.find? e.path = some text ∧ listed p c e.path text = some e := by
  cases htext : c.configs.find? (PromoterConfig.pathOf (Protocol.configId id)) with
  | none =>
      rw [reported_of_find?_eq_none htext] at h
      cases h
  | some text =>
      obtain ⟨q, i, config, hpath, hwritten, hcontent, hother⟩ := exists_stored hc htext
      have hid := PromoterConfig.pathOf_inj hpath
      obtain ⟨rfl, hname⟩ := Protocol.configId_inj hid
      have hstored : Stored id config text.attached c := hother.congr hid.symm
      rw [hstored.reported_eq] at h
      obtain ⟨e', he, heq⟩ := map_eq_ok_iff.1 h
      cases heq
      have hconfigId : e.configId = Protocol.configId id :=
        (configId_reconstruct he).trans hstored.belongs.hasId
      rw [Endpoint.path, hconfigId]
      refine ⟨text, htext, listed_eq_some_iff.2
        ⟨config, by rw [hcontent]; exact hstored.belongs.reads, ?_⟩⟩
      refine readEndpoint_eq_some_iff.2 ⟨Protocol.resourceName id, ?_, he⟩
      rw [hstored.belongs.hasId]
      have hne : Protocol.resourceName id ≠ "" := by
        rw [hname]
        exact hwritten.resourceName_ne
      exact (Protocol.resourceOfConfigId_configId hne).2 ⟨rfl, rfl⟩

/-- A listing has at most one endpoint for each path, in the order of the paths. -/
lemma pairwise_path_listed (hc : Cluster.Rooted asked c) :
    ((c.configs.entries.filterMap fun x => listed p c x.1 x.2).map Endpoint.path).Pairwise
      (compare · · = .lt) := by
  rw [List.pairwise_map, List.pairwise_filterMap]
  refine c.configs.ascending.imp_of_mem fun {x y} hx hy hlt e he e' he' => ?_
  rw [← (reported_of_listed hc (SortedMap.find?_eq_some_iff.2 hx) he).1,
    ← (reported_of_listed hc (SortedMap.find?_eq_some_iff.2 hy) he').1]
  exact hlt

/-- **Listing and looking up agree.**  On every cluster a listing succeeds: each stored text
contributes at most one endpoint, and to the listing of at most one protocol.  In every run the
endpoints that are listed are those that looking up some identity returns, one for each path at most
and in the order of their paths. -/
theorem list_agrees (w : Waiter) (c : Cluster) :
    (∀ p, (gateway w).list p c
        = (.ok (c.configs.entries.filterMap fun x => listed p c x.1 x.2), c))
      ∧ (∀ (p q : Protocol) path text (e : Endpoint p) (e' : Endpoint q),
        listed p c path text = some e → listed q c path text = some e' → p = q)
      ∧ (Cluster.Reachable (fun _ => True) c → ∀ p es, (gateway w).list p c = (.ok es, c) →
        (∀ e, e ∈ es ↔ ∃ id, (gateway w).get id c = (.ok (some e), c))
          ∧ (es.map Endpoint.path).Pairwise (compare · · = .lt)
          ∧ ∀ e ∈ es, ∃ text, c.configs.find? e.path = some text
            ∧ listed p c e.path text = some e) := by
  refine ⟨fun p => list_eq_listed w p c, fun _ _ _ _ _ _ h h' => eq_of_listed h h',
    fun hc p es hlist => ?_⟩
  rw [list_eq_listed] at hlist
  cases hlist
  have hrooted := hc.reachableBy.rooted
  have hmem : ∀ e ∈ c.configs.entries.filterMap fun x => listed p c x.1 x.2,
      reported e.identity c = .ok (some e) := by
    intro e he
    obtain ⟨x, hx, he⟩ := List.mem_filterMap.1 he
    exact (reported_of_listed hrooted (SortedMap.find?_eq_some_iff.2 hx) he).2
  refine ⟨fun e => ⟨fun he => ⟨e.identity, ?_⟩, ?_⟩, pairwise_path_listed hrooted,
    fun e he => exists_listed_of_reported hrooted (hmem e he)⟩
  · rw [get_eq_reported, hmem e he]
  · rintro ⟨id, hget⟩
    rw [get_eq_reported] at hget
    obtain ⟨text, htext, he⟩ := exists_listed_of_reported hrooted (Prod.mk.inj hget).1
    exact List.mem_filterMap.2 ⟨(e.path, text), SortedMap.find?_eq_some_iff.1 htext, he⟩

/-- The subsystem of one volume is listed where it was created, for looking it up returns it. -/
theorem list_agrees_createdCluster :
    Cluster.Reachable (fun _ => True) (createdCluster plainSubsystem)
      ∧ ∃ e es, (gateway halfSecond).get dataNqn (createdCluster plainSubsystem)
          = (.ok (some e), createdCluster plainSubsystem)
        ∧ (gateway halfSecond).list .nvmeof (createdCluster plainSubsystem)
          = (.ok es, createdCluster plainSubsystem)
        ∧ e ∈ es := by
  have hrun : Cluster.Reachable (fun _ => True) (createdCluster plainSubsystem) :=
    reachable_createdCluster trivial plainSubsystem
  obtain ⟨e, -, he, -⟩ := exists_create_subsystem plainSubsystem (by decide) rfl
  have hget : (gateway halfSecond).get dataNqn (createdCluster plainSubsystem)
      = (.ok (some e), createdCluster plainSubsystem) := by
    rw [get_eq_reported,
      show reported dataNqn (createdCluster plainSubsystem) = .ok (some e) from he]
  obtain ⟨hlist, -, hagree⟩ := list_agrees halfSecond (createdCluster plainSubsystem)
  exact ⟨hrun, e, _, hget, hlist .nvmeof, ((hagree hrun .nvmeof _ (hlist .nvmeof)).1 e).2
    ⟨dataNqn, hget⟩⟩

end Operation

end FailoverStorage

import FailoverStorage.Proofs.Controller.Provision
import FailoverStorage.Proofs.Gateway.Legibility
import FailoverStorage.Proofs.Http.Percent

/-!
# Listing what a controller holds

A listing asks for the store once and then, entry by entry, for the definitions of the resources in
the entry and for what is deployed of the resource in its id.  Only the first request can make it
fail.  Where each answer depends on the request alone, an entry contributes what it would contribute
by itself (`Controller.listed`), and the listing is what its entries contribute, in their order
(`Controller.Steady.list_eq_listed`).

What an entry contributes does not depend on other entries, nor on the answers about resources that
it does not manage (`Controller.listed_of_beside`).  A request about such a resource is sent
nevertheless, if the id in an entry names another resource than the entry manages; but such an entry
is passed over whatever is answered.
-/

namespace FailoverStorage

open FailoverStorage.Action

namespace Controller

variable {σ τ α : Type}

/-! ## Controllers that answer the same -/

/-- **Two controllers answer the same** to reading a path, whatever was asked before. -/
def AgreeAt (c : Controller σ) (c' : Controller τ) (path : String) : Prop :=
  ∀ s t, (c.transport (c.reading path) s).1 = (c'.transport (c'.reading path) t).1

section

variable {c : Controller σ} {c' : Controller τ} {path name : String}

lemma alike_read (h : c.AgreeAt c' path) (decode : Json.Decoder α) :
    Alike (c.read path decode) (c'.read path decode) := by
  intro s t
  rw [read_apply, read_apply, h s t]

lemma alike_read? (h : c.AgreeAt c' path) (decode : Json.Decoder α) :
    Alike (c.read? path decode) (c'.read? path decode) := by
  intro s t
  rw [read?_apply, read?_apply, h s t]

lemma alike_deployed (hdefinition : c.AgreeAt c' (definitionPath name))
    (hvolumes : c.AgreeAt c' (volumesPath name)) (hplacements : c.AgreeAt c' (placementsPath name))
    (hgroup : ∀ group, c.AgreeAt c' (groupPath group)) :
    Alike (c.deployed name) (c'.deployed name) := by
  refine Alike.bind (alike_read? hdefinition _) fun definition? => ?_
  cases definition? with
  | none => exact alike_pure _
  | some definition =>
      refine Alike.bind (alike_read? (hgroup _) _) fun group => ?_
      refine Alike.bind (alike_read hvolumes _) fun volumeDefinitions => ?_
      exact Alike.bind (alike_read hplacements _) fun placements => alike_pure _

lemma alike_anyEnables (file : String) {names : List String}
    (h : ∀ name ∈ names, c.AgreeAt c' (definitionPath name)) :
    Alike (c.anyEnables file names) (c'.anyEnables file names) := by
  induction names with
  | nil => exact alike_pure _
  | cons name rest ih =>
      obtain ⟨hname, hrest⟩ := List.forall_mem_cons.1 h
      refine Alike.bind (alike_read? hname _) fun definition? => ?_
      simp only
      split
      · exact alike_pure _
      · exact ih hrest

lemma alike_stored (file : String) {config : PromoterConfig}
    (h : ∀ name ∈ config.resources.keys, c.AgreeAt c' (definitionPath name)) :
    Alike (c.stored file config) (c'.stored file config) :=
  Alike.bind (alike_anyEnables file h) fun _ => alike_pure _

end

/-! ## What entries contribute -/

/-- The entries that hold configurations. -/
def configEntries (all : SortedMap String String) : List (String × String) :=
  all.entries.filter fun (path, _) => (Text.dropStart configDirectory.toList path.toList).isSome

/-- The configuration in an entry, if it can be read and the controller tells whether it is
attached. -/
def storedOf (c : Controller (List Exchange)) (entry : String × String) : Option StoredConfig :=
  match PromoterConfig.ofToml entry.2 with
  | .ok config => (c.stored entry.1 config []).1.toOption
  | .error _ => none

/-- The endpoint of a stored configuration, if its id names a resource and it can be read.  What is
deployed counts as nothing if the controller does not tell it. -/
def endpointOf (c : Controller (List Exchange)) (p : Protocol) (stored : StoredConfig) :
    Option (Endpoint p) :=
  (p.resourceOfConfigId stored.config.id).bind fun resource =>
    (Gateway.reconstruct p stored ((c.deployed resource []).1.toOption.getD {})).toOption

/-- **What an entry contributes by itself** to the listing of a protocol. -/
def listed (c : Controller (List Exchange)) (p : Protocol) (entry : String × String) :
    Option (Endpoint p) :=
  (c.storedOf entry).bind (c.endpointOf p)

/-- **A controller always answers the same** to reading the same path. -/
def Steady (c : Controller σ) : Prop := ∀ path, c.AgreeAt c path

section

variable {c : Controller (List Exchange)} {p : Protocol} {log : List Exchange}

/-- The configurations among entries are those of the single entries. -/
lemma Steady.readable (hc : c.Steady) (entries : List (String × String)) :
    (c.readable entries log).1 = .ok (entries.filterMap c.storedOf) := by
  induction entries generalizing log with
  | nil => rfl
  | cons entry rest ih =>
      rw [Controller.readable, List.filterMap_cons, storedOf]
      cases PromoterConfig.ofToml entry.2 with
      | error err => exact ih
      | ok config =>
          have hstored : Alike (c.stored entry.1 config) (c.stored entry.1 config) :=
            alike_stored entry.1 fun _ _ => hc _
          have hfirst := (hstored.map some).result_getD none log []
          rw [result_bind hfirst, result_bind ih, map_apply]
          simp only
          cases (c.stored entry.1 config []).1 <;> rfl

/-- The endpoints among configurations are those of the single configurations. -/
lemma Steady.endpointsOf (hc : c.Steady) (w : Waiter) (configs : List StoredConfig) :
    (Gateway.endpointsOf ⟨c.backend, w⟩ p configs log).1
      = .ok (configs.filterMap (c.endpointOf p)) := by
  induction configs generalizing log with
  | nil => rfl
  | cons stored rest ih =>
      rw [Gateway.endpointsOf, List.filterMap_cons, endpointOf]
      cases p.resourceOfConfigId stored.config.id with
      | none => exact ih
      | some resource =>
          have hdeployed : (Action.getD (c.backend.storage.deployed resource) {} log).1
              = .ok ((c.deployed resource []).1.toOption.getD {}) :=
            (alike_deployed (hc _) (hc _) (hc _) fun _ => hc _).result_getD {} log []
          simp only
          rw [result_bind hdeployed, result_bind ih, Option.bind_some]
          cases Gateway.reconstruct p stored ((c.deployed resource []).1.toOption.getD {}) <;> rfl

/-- The entries that a steady controller tells. -/
def heldEntries (c : Controller (List Exchange)) : Except Error (SortedMap String String) :=
  entriesOf (c.transport (c.reading entriesPath) []).1

lemma Steady.entries (hc : c.Steady) : (c.entries log).1 = c.heldEntries := by
  rw [entries_apply, heldEntries, hc entriesPath log []]

/-- **A listing is what the entries of the store contribute**, in their order. -/
lemma Steady.list_eq_listed (hc : c.Steady) (w : Waiter) {all : SortedMap String String}
    (hall : c.heldEntries = .ok all) :
    (Gateway.list ⟨c.backend, w⟩ p log).1 = .ok ((configEntries all).filterMap (c.listed p)) := by
  have hlist : (c.listConfigs log).1 = .ok ((configEntries all).filterMap c.storedOf) := by
    rw [listConfigs, result_bind (hc.entries.trans hall)]
    exact hc.readable _
  have hconfigs : (Gateway.configs ⟨c.backend, w⟩ log).1
      = .ok ((configEntries all).filterMap c.storedOf) :=
    congrArg (FailoverStorage.inPhase "failed to list promoter configs") hlist
  rw [Gateway.list, result_bind hconfigs, hc.endpointsOf, List.filterMap_filterMap]
  rfl

/-- A listing fails if the store is not told. -/
lemma Steady.list_of_untold (hc : c.Steady) (w : Waiter) {err : Error}
    (herr : c.heldEntries = .error err) :
    (Gateway.list ⟨c.backend, w⟩ p log).1
      = .error (.context "failed to list promoter configs" err) := by
  have hlist : (c.listConfigs log).1 = .error err := by
    rw [listConfigs, bind_apply_error (Prod.ext (hc.entries.trans herr) rfl)]
  have hconfigs : (Gateway.configs ⟨c.backend, w⟩ log).1
      = .error (.context "failed to list promoter configs" err) :=
    congrArg (FailoverStorage.inPhase "failed to list promoter configs") hlist
  rw [Gateway.list, bind_apply_error (Prod.ext hconfigs rfl)]

/-- The entries are told exactly if the answer of the store tells something. -/
lemma exists_entriesOf_iff {reply : Option Reply} :
    (∃ all, entriesOf reply = .ok all) ↔ Tells (Json.Decode.list decodeEntries) reply := by
  have htold : (∃ found, told (Json.Decode.list decodeEntries) entriesPath reply = .ok found)
      ↔ Tells (Json.Decode.list decodeEntries) reply := exists_told_iff
  rw [← htold]
  simp [entriesOf, map_eq_ok_iff]

/-- **A listing fails exactly if the store is not told.** -/
lemma Steady.exists_list_eq_error_iff (hc : c.Steady) (w : Waiter) :
    (∃ err, (Gateway.list ⟨c.backend, w⟩ p log).1 = .error err)
      ↔ ¬ Tells (Json.Decode.list decodeEntries) (c.transport (c.reading entriesPath) []).1 := by
  rw [← exists_entriesOf_iff]
  cases hentries : c.heldEntries with
  | ok all =>
      rw [hc.list_eq_listed w hentries]
      exact iff_of_false nofun (not_not_intro ⟨all, hentries⟩)
  | error err =>
      refine iff_of_true ⟨_, hc.list_of_untold w hentries⟩ ?_
      rintro ⟨all, hall⟩
      cases hentries.symm.trans hall

end

/-! ## Requests about one resource -/

/-- **A path is about a resource**: it is that of its definition, or below, or that of its
placements. -/
def About (name path : String) : Prop :=
  (∃ rest, path = definitionPath name ++ rest ∧ (rest = "" ∨ ∃ tail, rest = "/" ++ tail))
    ∨ path = placementsPath name

section

variable {name other path rest : String}

lemma about_definitionPath (name : String) : About name (definitionPath name) :=
  .inl ⟨"", String.append_empty.symm, .inl rfl⟩

lemma about_volumesPath (name : String) : About name (volumesPath name) :=
  .inl ⟨"/volume-definitions", rfl, .inr ⟨"volume-definitions", by decide +kernel⟩⟩

lemma about_placementsPath (name : String) : About name (placementsPath name) := .inr rfl

lemma definitionPath_append (name rest : String) : definitionPath name ++ rest
    = "/v1/resource-definitions/" ++ (Http.percentEncode name ++ rest) :=
  String.append_assoc

lemma definitionPath_append_ne_placementsPath (name rest other : String) :
    definitionPath name ++ rest ≠ placementsPath other := by
  rw [definitionPath_append]
  exact append_ne_append (by decide +kernel) _ _

/-- An encoded name ends where its segment of the path ends. -/
lemma takeWhile_segment (hrest : rest = "" ∨ ∃ tail, rest = "/" ++ tail) :
    (Http.percentEncode name ++ rest).toList.takeWhile (· ≠ '/')
      = (Http.percentEncode name).toList := by
  have hname : ∀ c ∈ (Http.percentEncode name).toList, decide (c ≠ '/') = true := fun c hc =>
    decide_eq_true (Http.ascii_percentEncode hc).2
  have hnil : rest.toList.takeWhile (· ≠ '/') = [] := by
    rcases hrest with rfl | ⟨tail, rfl⟩
    · rfl
    · rw [String.toList_append]
      rfl
  rw [String.toList_append, List.takeWhile_append_of_pos hname, hnil, List.append_nil]

/-- What is about a resource begins with one of two texts. -/
lemma About.ne_append (h : About name path) {start : String}
    (hdefinition : ¬ ("/v1/resource-definitions/".toList <+: start.toList
      ∨ start.toList <+: "/v1/resource-definitions/".toList))
    (hplacements : ¬ ("/v1/view/resources?resources=".toList <+: start.toList
      ∨ start.toList <+: "/v1/view/resources?resources=".toList)) (tail : String) :
    path ≠ start ++ tail := by
  rcases h with ⟨rest, rfl, -⟩ | rfl
  · rw [definitionPath_append]
    exact append_ne_append hdefinition _ _
  · exact append_ne_append hplacements _ _

/-- **A path is about one resource at most.** -/
lemma About.unique (h : About name path) (h' : About other path) : name = other := by
  rcases h with ⟨rest, rfl, hrest⟩ | rfl <;> rcases h' with ⟨rest', heq, hrest'⟩ | heq
  · rw [definitionPath_append, definitionPath_append, String.append_right_inj] at heq
    have hsegment := congrArg (fun s : String => s.toList.takeWhile (· ≠ '/')) heq
    simp only [takeWhile_segment hrest, takeWhile_segment hrest'] at hsegment
    exact Http.percentEncode_inj (String.toList_inj.1 hsegment)
  · exact absurd heq (definitionPath_append_ne_placementsPath _ _ _)
  · exact absurd heq.symm (definitionPath_append_ne_placementsPath _ _ _)
  · exact Http.percentEncode_inj ((String.append_right_inj _).1 heq)

lemma About.ne_entriesPath (h : About name path) : path ≠ entriesPath := by
  rw [← String.append_empty (s := entriesPath)]
  exact h.ne_append (by decide +kernel) (by decide +kernel) ""

lemma not_about_groupPath (name group : String) : ¬ About name (groupPath group) := by
  intro h
  have hne : groupPath group ≠ "/v1/resource-groups/" ++ Http.percentEncode group :=
    h.ne_append (by decide +kernel) (by decide +kernel) _
  exact hne rfl

lemma groupPath_ne_entriesPath (group : String) : groupPath group ≠ entriesPath := by
  rw [← String.append_empty (s := entriesPath)]
  exact append_ne_append (by decide +kernel) _ _

end

/-! ## Changing one entry -/

/-- The resources that an entry manages; none if it cannot be read. -/
def managedIn (entry : String × String) : List String :=
  match PromoterConfig.ofToml entry.2 with
  | .ok config => config.resources.keys
  | .error _ => []

/-- An entry is at another path and manages none of some resources. -/
def apart (path : String) (own : List String) (entry : String × String) : Bool :=
  entry.1 ≠ path && (managedIn entry).all fun name => name ∉ own

/-- **Two controllers differ at most** in the entry at a path and in what they answer about some
resources. -/
structure Beside (c c' : Controller (List Exchange)) (all all' : SortedMap String String)
    (path : String) (own : List String) : Prop where
  entry : ∀ other, other ≠ path → all'.find? other = all.find? other
  agree : ∀ other, other ≠ entriesPath → (∀ name ∈ own, ¬ About name other) → c.AgreeAt c' other

section

variable {c c' : Controller (List Exchange)} {all all' : SortedMap String String} {path : String}
  {own : List String} {p : Protocol} {e : Endpoint p} {entry : String × String}
  {stored : StoredConfig}

/-- An endpoint is read from a configuration of its id that manages its resource and no other. -/
lemma keys_of_reconstruct {deployed : DeployedState}
    (h : Gateway.reconstruct p stored deployed = .ok e) :
    e.configId = stored.config.id ∧ stored.config.resources.keys = [e.resourceName] := by
  obtain ⟨b, hread, heq⟩ := Operation.exists_ofPromoter_of_reconstruct h
  obtain ⟨hid, r, hresource⟩ := Endpoint.managed_of_ofPromoter hread
  rw [heq]
  refine ⟨hid, ?_⟩
  rw [PromoterConfig.resource] at hresource
  split at hresource
  next entry hentries =>
    cases hresource
    rw [SortedMap.keys, hentries]
    rfl
  next => cases hresource
  next => cases hresource

lemma endpointOf_eq_some_iff : c.endpointOf p stored = some e
    ↔ ∃ resource, p.resourceOfConfigId stored.config.id = some resource
      ∧ Gateway.reconstruct p stored ((c.deployed resource []).1.toOption.getD {}) = .ok e := by
  simp only [endpointOf, Option.bind_eq_some_iff, toOption_eq_some_iff]

lemma config_of_stored {file : String} {config : PromoterConfig} {log : List Exchange}
    (h : (c.stored file config log).1 = .ok stored) : stored.config = config := by
  rw [Controller.stored, bind_apply] at h
  split at h
  · cases h
    rfl
  · cases h

lemma managedIn_of_storedOf (h : c.storedOf entry = some stored) :
    managedIn entry = stored.config.resources.keys := by
  rw [storedOf] at h
  rw [managedIn]
  split at h
  next config _ =>
    rw [toOption_eq_some_iff] at h
    rw [config_of_stored h]
  next => cases h

/-- **An entry that contributes an endpoint manages its resource** and no other. -/
lemma managedIn_of_listed (h : c.listed p entry = some e) : managedIn entry = [e.resourceName] := by
  obtain ⟨stored, hstored, hendpoint⟩ := Option.bind_eq_some_iff.1 h
  obtain ⟨resource, -, hread⟩ := endpointOf_eq_some_iff.1 hendpoint
  rw [managedIn_of_storedOf hstored, (keys_of_reconstruct hread).2]

lemma Beside.agreeAt (h : c.Beside c' all all' path own) {name other : String} (hname : name ∉ own)
    (hother : About name other) : c.AgreeAt c' other :=
  h.agree other hother.ne_entriesPath fun _ hown habout => hname (hother.unique habout ▸ hown)

/-- No endpoint is read from a configuration whose id names a resource that it does not manage. -/
lemma endpointOf_eq_none {resource : String}
    (hid : p.resourceOfConfigId stored.config.id = some resource)
    (hresource : resource ∉ stored.config.resources.keys) : c.endpointOf p stored = none := by
  refine Option.eq_none_iff_forall_ne_some.2 fun e he => hresource ?_
  obtain ⟨resource', -, hread⟩ := endpointOf_eq_some_iff.1 he
  obtain ⟨hconfigId, hkeys⟩ := keys_of_reconstruct hread
  have hname : p.tag ++ "-" ++ e.resourceName = p.tag ++ "-" ++ resource :=
    hconfigId.trans (Protocol.resourceOfConfigId_eq_some_iff.1 hid).1
  rw [hkeys, ← (Protocol.tag_append_inj hname).2]
  exact List.mem_singleton_self _

lemma endpointOf_of_beside (h : c.Beside c' all all' path own)
    (hown : ∀ name ∈ stored.config.resources.keys, name ∉ own) :
    c'.endpointOf p stored = c.endpointOf p stored := by
  cases hid : p.resourceOfConfigId stored.config.id with
  | none => simp only [endpointOf, hid, Option.bind_none]
  | some resource =>
      by_cases hresource : resource ∈ stored.config.resources.keys
      · have hagree : ∀ other, About resource other → c.AgreeAt c' other := fun other =>
          h.agreeAt (hown resource hresource)
        have hdeployed : Alike (c.deployed resource) (c'.deployed resource) :=
          alike_deployed (hagree _ (about_definitionPath _)) (hagree _ (about_volumesPath _))
            (hagree _ (about_placementsPath _)) fun group => h.agree _ (groupPath_ne_entriesPath _)
              fun name _ => not_about_groupPath name group
        simp only [endpointOf, hid, Option.bind_some, hdeployed [] []]
      · rw [endpointOf_eq_none hid hresource, endpointOf_eq_none hid hresource]

lemma storedOf_of_beside (h : c.Beside c' all all' path own)
    (hown : ∀ name ∈ managedIn entry, name ∉ own) : c'.storedOf entry = c.storedOf entry := by
  cases hread : PromoterConfig.ofToml entry.2 with
  | error err => simp only [storedOf, hread]
  | ok config =>
      simp only [managedIn, hread] at hown
      have halike : Alike (c.stored entry.1 config) (c'.stored entry.1 config) :=
        alike_stored entry.1 fun name hname => h.agreeAt (hown name hname) (about_definitionPath _)
      simp only [storedOf, hread, halike [] []]

/-- **An entry apart from what differs contributes the same.** -/
lemma listed_of_beside (h : c.Beside c' all all' path own) (hentry : apart path own entry = true) :
    c'.listed p entry = c.listed p entry := by
  have hown : ∀ name ∈ managedIn entry, name ∉ own := fun name hname =>
    of_decide_eq_true (List.all_eq_true.1 (Bool.and_eq_true_iff.1 hentry).2 name hname)
  rw [listed, listed, storedOf_of_beside h hown]
  cases hfound : c.storedOf entry with
  | none => rw [Option.bind_none, Option.bind_none]
  | some stored =>
      rw [managedIn_of_storedOf hfound] at hown
      rw [Option.bind_some, Option.bind_some, endpointOf_of_beside h hown]

/-- The entries apart from what differs are the same, in the same order. -/
lemma filter_apart_of_beside (h : c.Beside c' all all' path own) :
    (configEntries all').filter (apart path own) = (configEntries all).filter (apart path own) := by
  have herase : all'.erase path = all.erase path := by
    refine SortedMap.ext_find? fun other => ?_
    rw [SortedMap.find?_erase, SortedMap.find?_erase]
    split
    · rfl
    · rename_i hne
      exact h.entry other hne
  have hsplit : ∀ m : SortedMap String String, (configEntries m).filter (apart path own)
      = (configEntries (m.erase path)).filter (apart path own) := by
    intro m
    simp only [configEntries, SortedMap.erase, SortedMap.filter, List.filter_filter]
    refine List.filter_congr fun entry _ => ?_
    rw [apart]
    by_cases hpath : entry.1 = path <;> simp [hpath]
  rw [hsplit, hsplit all, herase]

end

/-! ## Controllers without memory -/

/-- **A controller whose answers depend on the request alone.** -/
def answering (answers : Call → Option Reply) (address : String) : Controller (List Exchange) :=
  Script.controller (fun _ => answers) address

lemma steady_answering (answers : Call → Option Reply) (address : String) :
    (answering answers address).Steady := fun _ _ _ => rfl

/-- **Listing on a controller.**  Let each answer depend on the request alone.  A listing of any
protocol fails exactly if the store is not told; a store that does not exist is told to be empty.
Else it is what the entries contribute, in their order, each the endpoint whose resource it manages.

Let another controller differ at most in the entry at one path and in what it answers about some
resources.  The entries at other paths that manage none of these resources are the same in both
stores, in the same order, and contribute the same endpoints. -/
theorem list_of_answers (answers : Call → Option Reply) (address : String) (w : Waiter)
    (p : Protocol) (log : List Exchange) :
    let c := answering answers address
    ((∃ err, (Gateway.list ⟨c.backend, w⟩ p log).1 = .error err)
        ↔ ¬ Tells (Json.Decode.list decodeEntries) (answers (c.reading entriesPath)))
      ∧ ∀ all, entriesOf (answers (c.reading entriesPath)) = .ok all →
        (Gateway.list ⟨c.backend, w⟩ p log).1 = .ok ((configEntries all).filterMap (c.listed p))
        ∧ (∀ entry e, c.listed p entry = some e → managedIn entry = [e.resourceName])
        ∧ ∀ answers' all' path own, let c' := answering answers' address
          entriesOf (answers' (c'.reading entriesPath)) = .ok all' →
          c.Beside c' all all' path own →
            (Gateway.list ⟨c'.backend, w⟩ p log).1
                = .ok ((configEntries all').filterMap (c'.listed p))
              ∧ (configEntries all').filter (apart path own)
                = (configEntries all).filter (apart path own)
              ∧ ∀ entry, apart path own entry = true → c'.listed p entry = c.listed p entry := by
  intro c
  have hc : c.Steady := steady_answering answers address
  refine ⟨hc.exists_list_eq_error_iff w, fun all hall =>
    ⟨hc.list_eq_listed w hall, fun _ _ => managedIn_of_listed, ?_⟩⟩
  intro answers' all' path own c' hall' hbeside
  have hc' : c'.Steady := steady_answering answers' address
  exact ⟨hc'.list_eq_listed w hall', filter_apart_of_beside hbeside,
    fun _ => listed_of_beside hbeside⟩

/-! ## Two exports -/

/-- What a store answers that holds the export `other` and nothing that can be read for `data`. -/
def pairReply : Reply :=
  { status := 200
    body := "[\x7b\"props\":\x7b\"/etc/drbd-reactor.d/linstor-gateway-nfs-data.toml\":\"\","
      ++ "\"/etc/drbd-reactor.d/linstor-gateway-nfs-other.toml\":"
      ++ "\"[[promoter]]\\nid = 'nfs-other'\\n[promoter.resources.other]\\n"
      ++ "start = ['ocf:heartbeat:nfsserver nfsserver']\"\x7d\x7d]" }

/-- The answers of a controller that only knows the export `other`. -/
def soleAnswers : Call → Option Reply := otherScript 404 []

/-- The same with an entry for `data`, whose resource is not told. -/
def pairAnswers (call : Call) : Option Reply :=
  if call.url = entriesPath then some pairReply
  else if call.url = definitionPath "data" then some { status := 500, body := "" }
  else soleAnswers call

lemma entriesOf_pairReply : entriesOf (some pairReply)
    = .ok ((SortedMap.empty.insert otherExport.path otherText).insert
      (PromoterConfig.pathOf "nfs-data") "") := by decide +kernel

/-- The two controllers differ in the entry of one export and in the answers about its resource. -/
lemma beside_pairAnswers : Beside (answering soleAnswers "") (answering pairAnswers "")
    (SortedMap.empty.insert otherExport.path otherText)
    ((SortedMap.empty.insert otherExport.path otherText).insert
      (PromoterConfig.pathOf "nfs-data") "") (PromoterConfig.pathOf "nfs-data") ["data"] where
  entry other hother := by rw [SortedMap.find?_insert, if_neg hother]
  agree other hother habout _ _ := by
    have hurl : "" ++ other = other := String.empty_append
    have hdefinition : other ≠ definitionPath "data" := by
      rintro rfl
      exact habout "data" (List.mem_singleton_self _) (about_definitionPath "data")
    rw [← hurl] at hother hdefinition
    exact ((if_neg hother).trans (if_neg hdefinition)).symm

/-- An export stays listed beside an entry that cannot be read and a resource that is not told. -/
theorem list_of_answers_pairAnswers :
    ∃ e : Endpoint .nfs, e.resourceName = "other"
      ∧ (∃ es, (Gateway.list ⟨(answering soleAnswers "").backend, Operation.halfSecond⟩ .nfs []).1
        = .ok es ∧ e ∈ es)
      ∧ ∃ es, (Gateway.list ⟨(answering pairAnswers "").backend, Operation.halfSecond⟩ .nfs []).1
        = .ok es ∧ e ∈ es := by
  let entry := (otherExport.path, otherText)
  obtain ⟨-, hall⟩ := list_of_answers soleAnswers "" Operation.halfSecond .nfs []
  obtain ⟨hlist, hmanaged, hbeside⟩ := hall _ entriesOf_otherEntries
  obtain ⟨hlist', hkept, hlisted⟩ :=
    hbeside pairAnswers _ _ _ entriesOf_pairReply beside_pairAnswers
  have hstored : (answering soleAnswers "").storedOf entry
      = some { config := otherExport, path := otherExport.path, attached := false } := by
    rw [storedOf, ofToml_otherText]
    decide +kernel
  have hsome : ((answering soleAnswers "").listed .nfs entry).isSome = true := by
    rw [listed, hstored]
    decide +kernel
  obtain ⟨e, he⟩ := Option.isSome_iff_exists.1 hsome
  have hname : managedIn entry = ["other"] := by
    rw [managedIn, ofToml_otherText]
    decide +kernel
  have hapart : apart (PromoterConfig.pathOf "nfs-data") ["data"] entry = true := by
    rw [apart, hname]
    decide +kernel
  have hmem := List.mem_filter.2 ⟨(by decide +kernel : entry ∈
    configEntries (SortedMap.empty.insert otherExport.path otherText)), hapart⟩
  have hmem' := hmem
  rw [← hkept] at hmem'
  refine ⟨e, ?_, ⟨_, hlist, List.mem_filterMap.2 ⟨entry, List.mem_of_mem_filter hmem, he⟩⟩,
    _, hlist', List.mem_filterMap.2
      ⟨entry, List.mem_of_mem_filter hmem', (hlisted entry hapart).trans he⟩⟩
  rw [hmanaged entry e he] at hname
  exact (List.cons.inj hname).1

end Controller

end FailoverStorage

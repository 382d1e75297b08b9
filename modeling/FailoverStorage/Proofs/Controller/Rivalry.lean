import FailoverStorage.Proofs.Controller.Calls
import FailoverStorage.Proofs.Data.SortedMap
import FailoverStorage.Proofs.Endpoint.RoundTrip

/-!
# Rivals on a controller

An endpoint of a protocol with an exclusive agent is not created where another configuration has
this agent.  On a controller such a rival is an entry of its store, and the check lists the entries
together with whether they are attached, which is read from the definitions of their resources.  A
listing passes over what it cannot read, and so does the check.

So the check is not safe against failing reads: a rival keeps an endpoint from being created unless
the definition of one of its resources could not be read (`Controller.create_of_rival`).  If that
read fails, resources are created beside the rival (`Controller.create_beside_otherExport`).

All this is about controllers that follow a `Script`: any answers at all, each decided by everything
that was asked and answered before.
-/

namespace FailoverStorage

open FailoverStorage.Action

/-! ## Scripts -/

/-- A request and what came back. -/
structure Exchange where
  call : Call
  reply : Option Reply

/-- **What a controller answers**, given what was asked and answered so far. -/
abbrev Script : Type := List Exchange → Call → Option Reply

/-- A controller that follows a script; its state is what was asked and answered so far. -/
def Script.controller (script : Script) (address : String) : Controller (List Exchange) where
  transport call log := (script log call, log ++ [{ call, reply := script log call }])
  address := address

namespace Controller

/-- Nothing was sent but requests that read. -/
def OnlyReads (log : List Exchange) : Prop := ∀ e ∈ log, e.call.method = "GET"

/-- **The definition of one of several resources was asked for and not told**, when nothing had been
sent but requests that read. -/
def Untold {σ : Type} (c : Controller σ) (names : List String) (log : List Exchange) : Prop :=
  ∃ before e after, log = before ++ e :: after ∧ OnlyReads before
    ∧ ∃ name ∈ names, e.call = c.reading (definitionPath name) ∧ ¬ Tells decodeDefinition e.reply

variable {script : Script} {address : String}

lemma readsKeep_onlyReads : (script.controller address).ReadsKeep OnlyReads := by
  intro path log hlog e he
  rcases List.mem_append.1 he with he | he
  · exact hlog e he
  · rw [List.mem_singleton.1 he]
    rfl

/-- What was not told stays in the log. -/
lemma callsKeep_untold (names : List String) : (script.controller address).CallsKeep
    (Untold (script.controller address) names) := by
  rintro call log ⟨before, e, after, rfl, hbefore, hname⟩
  exact ⟨before, e, after ++ _, List.append_assoc before (e :: after) _, hbefore, hname⟩

lemma Untold.mono {σ : Type} {c : Controller σ} {names names' : List String}
    (hnames : ∀ name ∈ names, name ∈ names') {log : List Exchange} (h : c.Untold names log) :
    c.Untold names' log := by
  obtain ⟨before, e, after, hlog, hbefore, name, hname, huntold⟩ := h
  exact ⟨before, e, after, hlog, hbefore, name, hnames name hname, huntold⟩

/-! ## Listing -/

lemma ReadsKeep.or {σ : Type} {P : σ → Prop} {c : Controller σ} (h : c.ReadsKeep P) (a : Prop) :
    c.ReadsKeep fun s => a ∨ P s :=
  fun path s hs => hs.imp id (h path s)

/-- A definition is found out, or it was not told. -/
lemma triple_definition? (name : String) : Triple OnlyReads
    ((script.controller address).definition? name) (fun _ => OnlyReads)
    (Untold (script.controller address) [name]) := by
  intro log hlog
  refine ⟨(keeps_read? readsKeep_onlyReads _ _ log hlog).1, fun err t hrun => ?_⟩
  rw [definition?, read?_apply] at hrun
  obtain ⟨htold, rfl⟩ := Prod.mk.inj hrun
  refine ⟨log, _, [], rfl, hlog, name, List.mem_singleton_self _, rfl, fun htells => ?_⟩
  obtain ⟨definition?, hdefinition⟩ := exists_told_iff.2 htells
  cases hdefinition.symm.trans htold

/-- Whether a file is enabled is found out, or a definition was not told. -/
lemma triple_anyEnables (path : String) (names : List String) : Triple OnlyReads
    ((script.controller address).anyEnables path names) (fun _ => OnlyReads)
    (Untold (script.controller address) names) := by
  induction names with
  | nil => exact Triple.pure fun _ h => h
  | cons name rest ih =>
      refine Triple.bind ((triple_definition? name).imp (fun _ h => h) (fun _ _ h => h)
        fun _ h => h.mono (by simp)) fun definition? => ?_
      simp only
      split
      · exact Triple.pure fun _ h => h
      · exact ih.imp (fun _ h => h) (fun _ _ h => h) fun _ h =>
          h.mono fun _ => List.mem_cons_of_mem _

/-- A configuration is passed over only if the definition of one of its resources was not told. -/
lemma triple_stored (path : String) (config : PromoterConfig) : Triple OnlyReads
    ((some <$> (script.controller address).stored path config).getD none)
    (fun first log => (∃ stored, first = some stored ∧ stored.config = config)
      ∨ Untold (script.controller address) config.resources.keys log) fun _ => True := by
  have hstored : Triple OnlyReads ((script.controller address).stored path config)
      (fun stored _ => stored.config = config)
      (Untold (script.controller address) config.resources.keys) :=
    Triple.bind (triple_anyEnables path _) fun _ => Triple.pure fun _ _ => rfl
  exact Triple.getD (Triple.map (hstored.imp (fun _ h => h)
    (fun stored _ h => .inl ⟨stored, rfl, h⟩) fun _ h => h)) fun _ h => .inr h

/-- **A configuration among the entries is listed, or the definition of one of its resources was
not told.** -/
lemma triple_readable {path text : String} {config : PromoterConfig}
    (hread : PromoterConfig.ofToml text = .ok config) {entries : List (String × String)}
    (hentry : (path, text) ∈ entries) :
    Triple OnlyReads ((script.controller address).readable entries)
      (fun configs log => (∃ stored ∈ configs, stored.config = config)
        ∨ Untold (script.controller address) config.resources.keys log) fun _ => True := by
  induction entries with
  | nil => cases hentry
  | cons entry rest ih =>
      rw [readable]
      rcases List.mem_cons.1 hentry with rfl | hentry
      · simp only [hread]
        refine Triple.bind (triple_stored path config) fun first => ?_
        -- reading the other entries only appends to the log
        have hkept : Keeps (fun log => (∃ stored, first = some stored ∧ stored.config = config)
            ∨ Untold (script.controller address) config.resources.keys log)
            ((script.controller address).readable rest) :=
          keeps_readable ((callsKeep_untold _).readsKeep.or _) rest
        refine Triple.bind (hkept.imp (fun _ h => h) (fun _ _ h => h) fun _ _ => trivial)
          fun others => Triple.pure fun log h => h.imp_left ?_
        rintro ⟨stored, rfl, hconfig⟩
        exact ⟨stored, List.mem_append_left _ (by simp), hconfig⟩
      · cases PromoterConfig.ofToml entry.2 with
        | error err => exact ih hentry
        | ok other =>
            have hother : Triple OnlyReads
                (some <$> (script.controller address).stored entry.1 other) (fun _ => OnlyReads)
                OnlyReads :=
              Triple.map (keeps_stored readsKeep_onlyReads _ other)
            refine Triple.bind (hother.getD fun _ h => h) fun first => ?_
            refine Triple.bind (ih hentry) fun others => Triple.pure fun log h => h.imp_left ?_
            rintro ⟨stored, hmem, hconfig⟩
            exact ⟨stored, List.mem_append_right _ hmem, hconfig⟩

/-! ## The entries of a store -/

/-- The entries that an answer tells. -/
def entriesOf (reply : Option Reply) : Except Error (SortedMap String String) :=
  (fun instances => (instances.getD []).foldl (fun m n => m.override n) .empty)
    <$> told (Json.Decode.list decodeEntries) entriesPath reply

lemma entries_apply {σ : Type} (c : Controller σ) (s : σ) :
    c.entries s = (entriesOf (c.transport (c.reading entriesPath) s).1,
      (c.transport (c.reading entriesPath) s).2) := by
  rw [entries, bind_apply, read?_apply, entriesOf]
  cases told (Json.Decode.list decodeEntries) entriesPath
    (c.transport (c.reading entriesPath) s).1 <;> rfl

/-- **An answer of the store holds a configuration** at its path. -/
def Holds (reply : Option Reply) (config : PromoterConfig) : Prop :=
  ∃ entries text, entriesOf reply = .ok entries ∧ entries.find? config.path = some text
    ∧ PromoterConfig.ofToml text = .ok config

variable {config : PromoterConfig}

/-- Configurations are stored in the directory that is listed. -/
lemma isSome_dropStart_path (config : PromoterConfig) :
    (Text.dropStart configDirectory.toList config.path.toList).isSome = true := by
  have hroot : "/etc/drbd-reactor.d/linstor-gateway-".toList
      = configDirectory.toList ++ "/linstor-gateway-".toList := by decide +kernel
  have hsplit : ∀ root id ending : String,
      (root ++ id ++ ending).toList = root.toList ++ (id.toList ++ ending.toList) := by
    simp [String.toList_append]
  have hpath : config.path.toList = configDirectory.toList ++ "/linstor-gateway-".toList
      ++ (config.id.toList ++ ".toml".toList) :=
    (hsplit _ _ _).trans (congrArg (· ++ _) hroot)
  rw [hpath, List.append_assoc, Text.dropStart_append, Option.isSome_some]

/-- A configuration that the store holds is listed, or the definition of one of its resources was
not told. -/
lemma triple_listConfigs
    (hheld : Holds (script [] ((script.controller address).reading entriesPath)) config) :
    Triple (· = []) (script.controller address).listConfigs
      (fun configs log => (∃ stored ∈ configs, stored.config = config)
        ∨ Untold (script.controller address) config.resources.keys log) fun _ => True := by
  obtain ⟨entries, text, hentries, htext, hread⟩ := hheld
  have hfound : Triple (· = []) (script.controller address).entries
      (fun all log => all = entries ∧ OnlyReads log) fun _ => True := by
    rintro log rfl
    refine ⟨fun all t hrun => ⟨?_, ?_⟩, fun _ _ _ => trivial⟩
    · rw [entries_apply] at hrun
      exact Except.ok.inj ((Prod.mk.inj hrun).1.symm.trans hentries)
    · exact (keeps_entries readsKeep_onlyReads [] nofun).1 all t hrun
  refine Triple.bind hfound fun all => Triple.of_forall ?_
  rintro rfl
  exact triple_readable hread (List.mem_filter.2 ⟨SortedMap.find?_eq_some_iff.1 htext,
    isSome_dropStart_path config⟩)

/-! ## Checking -/

variable {p : Protocol} {kind : String}

/-- **The check passes a rival over only if** the definition of one of its resources was not
told. -/
lemma triple_checkExclusive (w : Waiter) (hkind : p.exclusiveKind = some kind) {id : p.Identity}
    (hheld : Holds (script [] ((script.controller address).reading entriesPath)) config)
    (hrival : config.hasKind kind = true) (hother : config.id ≠ Protocol.configId id) :
    Triple (· = []) (Gateway.checkExclusive ⟨(script.controller address).backend, w⟩ id)
      (fun _ => Untold (script.controller address) config.resources.keys) OnlyReads := by
  have hlist : Triple (· = []) (script.controller address).listConfigs
      (fun configs log => ((∃ stored ∈ configs, stored.config = config)
        ∨ Untold (script.controller address) config.resources.keys log) ∧ OnlyReads log)
      OnlyReads := by
    refine ((triple_listConfigs hheld).and (keeps_listConfigs readsKeep_onlyReads)).imp
      ?_ (fun _ _ h => h) fun _ h => h.2
    rintro log rfl
    exact ⟨rfl, nofun⟩
  rw [Gateway.checkExclusive, hkind]
  refine Triple.bind (Triple.inPhase _ hlist) fun configs => ?_
  simp only
  split
  next hnone =>
    refine Triple.pure fun log h => h.1.resolve_left ?_
    rintro ⟨stored, hmem, rfl⟩
    have hfound : stored ∈ configs.filter fun c =>
        c.config.id ≠ Protocol.configId id && c.config.hasKind kind :=
      List.mem_filter.2 ⟨hmem, by simp [hother, hrival]⟩
    rw [hnone] at hfound
    cases hfound
  next other rest _ => exact Triple.throw fun log h => h.2

/-- **A rival in the store keeps an endpoint from being created**, and nothing is sent but requests
that read, whatever the controller answers; unless the definition of one of the rival's resources
was asked for before and not told. -/
theorem create_of_rival (w : Waiter) (hkind : p.exclusiveKind = some kind) (requested : Endpoint p)
    (hheld : Holds (script [] ((script.controller address).reading entriesPath)) config)
    (hrival : config.hasKind kind = true) (hother : config.id ≠ requested.configId)
    {result : Except Error (Endpoint p)} {log : List Exchange}
    (hrun : Gateway.create ⟨(script.controller address).backend, w⟩ requested [] = (result, log)) :
    (∃ err, result = .error err) ∧ OnlyReads log
      ∨ Untold (script.controller address) config.resources.keys log := by
  have hcreate := Gateway.triple_create requested
    (R := fun log => OnlyReads log ∨ Untold (script.controller address) config.resources.keys log)
    ((triple_checkExclusive w hkind hheld hrival hother).imp (fun _ h => h) (fun _ _ h => h)
      fun _ h => .inl h)
    (preserves_backend (callsKeep_untold config.resources.keys))
    (fun log h => .inl (by rw [h]; exact nofun)) fun _ h => .inr h
  obtain ⟨hok, herror⟩ := hcreate [] rfl
  cases result with
  | ok e => exact .inr (hok e log hrun)
  | error err => exact (herror err log hrun).imp_left fun h => ⟨⟨err, rfl⟩, h⟩

/-! ## A rival whose definition cannot be read -/

/-- An export as the only entry of a store. -/
def otherExport : PromoterConfig :=
  { id := "nfs-other"
    resources := SortedMap.empty.insert "other"
      { start := [.ofList Agent.nfsServerKind "nfsserver" []] } }

def otherText : String :=
  "[[promoter]]\nid = 'nfs-other'\n[promoter.resources.other]\n"
    ++ "start = ['ocf:heartbeat:nfsserver nfsserver']"

lemma ofToml_otherText : PromoterConfig.ofToml otherText = .ok otherExport := by decide +kernel

def otherEntries : String :=
  "[\x7b\"props\":\x7b\"/etc/drbd-reactor.d/linstor-gateway-nfs-other.toml\":"
    ++ "\"[[promoter]]\\nid = 'nfs-other'\\n[promoter.resources.other]\\n"
    ++ "start = ['ocf:heartbeat:nfsserver nfsserver']\"\x7d\x7d]"

/-- A controller that holds this entry and the default group.  What it answers to a request for the
definition of the resource of the entry has a given status; nothing else exists. -/
def otherScript (status : Nat) : Script := fun _ call =>
  if call.url = entriesPath then some { status := 200, body := otherEntries }
  else if call.url = definitionPath "other" then some { status, body := "" }
  else if call.url = "/v1/resource-groups/DfltRscGrp" then
    some { status := 200, body := "\x7b\"name\":\"DfltRscGrp\"\x7d" }
  else some { status := 404, body := "" }

lemma entriesOf_otherEntries : entriesOf (some { status := 200, body := otherEntries })
    = .ok (SortedMap.empty.insert otherExport.path otherText) := by decide +kernel

lemma holds_otherExport (status : Nat) : Holds
    (otherScript status [] (((otherScript status).controller "").reading entriesPath))
    otherExport := by
  refine ⟨_, otherText, entriesOf_otherEntries, ?_, ofToml_otherText⟩
  rw [SortedMap.find?_insert, if_pos rfl]

/-- An export that exists is a rival of another, here on a controller that knows no resources. -/
theorem create_of_rival_otherExport : ∃ result log,
    Gateway.create ⟨((otherScript 404).controller "").backend,
        { timeoutMs := 500, intervalMs := 100 }⟩ Endpoint.plainExport [] = (result, log)
      ∧ ((∃ err, result = .error err) ∧ OnlyReads log
        ∨ Untold ((otherScript 404).controller "") otherExport.resources.keys log) :=
  ⟨_, _, Prod.mk.eta.symm, create_of_rival _ rfl Endpoint.plainExport (holds_otherExport 404)
    (by decide +kernel) (by decide +kernel) Prod.mk.eta.symm⟩

/-- **A rival is passed over if its definition cannot be read**: a valid export is asked for, the
store holds another one, and still the definition of a new resource is sent. -/
theorem create_beside_otherExport :
    Endpoint.plainExport.fillDefaults.validate = .ok ()
      ∧ Holds (otherScript 500 [] (((otherScript 500).controller "").reading entriesPath))
        otherExport
      ∧ otherExport.hasKind Agent.nfsServerKind = true
      ∧ otherExport.id ≠ Endpoint.plainExport.configId
      ∧ ∃ e ∈ (Gateway.create ⟨((otherScript 500).controller "").backend,
          { timeoutMs := 500, intervalMs := 100 }⟩ Endpoint.plainExport []).2,
        e.call.method = "POST" := by
  refine ⟨by decide +kernel, holds_otherExport 500, by decide +kernel, by decide +kernel, ?_⟩
  have hsent : (Gateway.create ⟨((otherScript 500).controller "").backend,
      { timeoutMs := 500, intervalMs := 100 }⟩ Endpoint.plainExport []).2.any
        (·.call.method = "POST") = true := by decide +kernel
  obtain ⟨e, he, hmethod⟩ := List.any_eq_true.1 hsent
  exact ⟨e, he, of_decide_eq_true hmethod⟩

end Controller

end FailoverStorage

import FailoverStorage.Gateway.Reconciler
import FailoverStorage.Proofs.Controller.Traces

/-!
# Cuts

Attaching a configuration and deleting one take several requests, and nothing holds them together:
any of them may be the last one that is carried out.  What matters is what the daemons then find.  A
property that enables a file must never stand where the file was not written; a file must stay as
long as a property enables it; and a resource must stay as long as its file does, or as long as it
is in use.

`Controller.safe_at_every_cut` says so of whatever part of the trace was carried out, whatever the
controller answers.  What is deleted goes in three steps, each with its own lemma: the configuration
(`Controller.sends_deleteConfig`), the wait (`Controller.endsIdle_await`) and the resource.
-/

namespace FailoverStorage

open FailoverStorage.Action

namespace Controller

variable {σ : Type}

/-! ## Requests that change something -/

/-- The request that deletes an object. -/
def deleting (c : Controller σ) (path : String) : Call :=
  { method := "DELETE", url := c.address ++ path, body := none }

/-- A request sets a property of an object. -/
def Sets (c : Controller σ) (path key value : String) (call : Call) : Prop :=
  ∃ set remove, call = c.changing path set remove ∧ set.find? key = some value

/-- A request removes a property of an object. -/
def Removes (c : Controller σ) (path key : String) (call : Call) : Prop :=
  ∃ set remove, call = c.changing path set remove ∧ key ∈ remove

variable {c : Controller σ} {path key value : String} {call : Call}

lemma Sets.url_eq (h : c.Sets path key value call) : call.url = c.address ++ path := by
  obtain ⟨set, remove, rfl, -⟩ := h
  rfl

lemma Removes.method_eq (h : c.Removes path key call) : call.method = "PUT" := by
  obtain ⟨set, remove, rfl, -⟩ := h
  rfl

lemma Removes.url_eq (h : c.Removes path key call) : call.url = c.address ++ path := by
  obtain ⟨set, remove, rfl, -⟩ := h
  rfl

/-! ## Attaching -/

/-- The request that writes the text of a configuration. -/
def writing (c : Controller σ) (config : PromoterConfig) : Call :=
  c.changing entriesPath (SortedMap.empty.insert config.path config.toToml) []

/-- The request that enables a file on a resource. -/
def enabling (c : Controller σ) (path name : String) : Call :=
  c.changing (definitionPath name) (SortedMap.empty.insert (fileProperty path) "True") []

/-- **A configuration is attached safely**: its text is written first, and only if that was carried
out its file is enabled, on one resource after another. -/
structure AttachesSafely (c : Controller σ) (config : PromoterConfig) (trace : List Exchange)
    (result : Except Error Unit) : Prop where
  enables : OnlyAfter
    (fun call => ∃ name, c.Sets (definitionPath name) (fileProperty config.path) "True" call)
    (fun before => ∃ e ∈ before, c.Sets entriesPath config.path config.toToml e.call
      ∧ Accepted e.reply) trace
  inTurn : InTurn (c.writing config :: config.resources.keys.map (c.enabling config.path))
    trace result

/-- What is sent first and answered is before whatever is sent later. -/
lemma onlyAfter_of_first {first : Call} {calls : List Call} {kind : Call → Prop}
    {needed : List Exchange → Prop} {passes : Exchange → Prop} {excuse : Error → Prop}
    {trace : List Exchange} {result : Except Error Unit} (hfirst : ¬ kind first)
    (hinTurn : InTurn (first :: calls) trace result) (horderly : Orderly passes excuse trace result)
    (hneeded : ∀ e before, e.call = first → passes e → needed (e :: before)) :
    OnlyAfter kind needed trace := by
  rintro (_ | ⟨e, before⟩) e' after rfl hkind
  · obtain ⟨rfl, -⟩ := List.cons_prefix_cons.1 hinTurn.among
    exact absurd hkind hfirst
  · obtain ⟨rfl, -⟩ := List.cons_prefix_cons.1 hinTurn.among
    exact hneeded e before rfl
      (horderly.later (e :: before) e' after rfl trivial e (List.mem_cons_self ..))

variable {script : Script} {address : String}

lemma orderly_enableOn (path : String) (names : List String) :
    Sends ((script.controller address).enableOn path true names)
      (Orderly (fun e => Accepted e.reply) fun _ => False) := by
  induction names with
  | nil => exact Sends.pure orderly_nil
  | cons name rest ih =>
      exact Sends.orderly_bind
        (Sends.orderly_inPhase (orderly_send fun _ => Iff.rfl) (fun _ _ h => h) _) fun _ => ih

lemma inTurn_enableOn (path : String) (names : List String) :
    Sends ((script.controller address).enableOn path true names)
      (InTurn (names.map ((script.controller address).enabling path))) := by
  induction names with
  | nil => exact Sends.pure inTurn_nil
  | cons name rest ih =>
      exact Sends.inTurn_bind (inTurn_send.inPhase fun _ _ h => h.inPhase _) fun _ => ih

lemma orderly_attach (config : PromoterConfig) : Sends ((script.controller address).attach config)
    (Orderly (fun e => Accepted e.reply) fun _ => False) :=
  Sends.orderly_bind (orderly_send fun _ => Iff.rfl) fun _ => orderly_enableOn _ _

lemma sends_attach (config : PromoterConfig) : Sends ((script.controller address).attach config)
    ((script.controller address).AttachesSafely config) := by
  have hinTurn : Sends ((script.controller address).attach config)
      (InTurn ((script.controller address).writing config
        :: config.resources.keys.map ((script.controller address).enabling config.path))) :=
    Sends.inTurn_bind inTurn_send fun _ => inTurn_enableOn _ _
  refine ((orderly_attach config).and hinTurn).imp fun trace result ⟨horderly, hinTurn⟩ =>
    ⟨onlyAfter_of_first ?_ hinTurn horderly fun e before hcall haccepted =>
      ⟨e, List.mem_cons_self .., ?_, haccepted⟩, hinTurn⟩
  · rintro ⟨name, hsets⟩
    exact definitionPath_ne_entriesPath name ((String.append_right_inj _).1 hsets.url_eq).symm
  · exact ⟨_, _, hcall, by rw [SortedMap.find?_insert, if_pos rfl]⟩

/-! ## Deleting -/

/-- The request that removes the property of a file from a resource. -/
def disabling (c : Controller σ) (path name : String) : Call :=
  c.changing (definitionPath name) .empty [fileProperty path]

/-- The request that removes the text at a path. -/
def removing (c : Controller σ) (path : String) : Call := c.changing entriesPath .empty [path]

/-- The store told what is at a path, or that nothing is. -/
def Told (c : Controller σ) (path : String) (text? : Option String) (trace : List Exchange) :
    Prop :=
  ∃ e ∈ trace, e.call = c.reading entriesPath
    ∧ ∃ entries, entriesOf e.reply = .ok entries ∧ entries.find? path = text?

/-- **The file at a path is enabled nowhere any more**: its property was removed from each resource
of the configuration that the store told, or there was no such resource. -/
def Forgotten (c : Controller σ) (path : String) (trace : List Exchange) : Prop :=
  ∃ text config, c.Told path (some text) trace ∧ PromoterConfig.ofToml text = .ok config
    ∧ ∀ name ∈ config.resources.keys, ∃ e ∈ trace,
      c.Removes (definitionPath name) (fileProperty path) e.call
        ∧ (Accepted e.reply ∨ Absent e.reply)

/-- **The store has nothing at a path**: there was nothing, or it was removed. -/
def Gone (c : Controller σ) (path : String) (trace : List Exchange) : Prop :=
  c.Told path none trace ∨ ∃ e ∈ trace, c.Removes entriesPath path e.call ∧ Accepted e.reply

/-- A view of the placements of a resource shows that it is not in use. -/
def ShowsIdle (c : Controller σ) (resource : String) (e : Exchange) : Prop :=
  e.call = c.reading (placementsPath resource)
    ∧ ∃ found, Shows (Json.Decode.list decodePlacement) e.reply found
      ∧ Waiter.noneInUse found = true

/-- **What must come back for a deletion to go on**: the store and the definitions that it names
must be told and the placements shown; the entry must be removed, and whatever else is removed must
be removed or absent. -/
def DeletePasses (c : Controller σ) (resource : String) (e : Exchange) : Prop :=
  if e.call.method = "GET" then
    if e.call.url = c.address ++ entriesPath then Tells (Json.Decode.list decodeEntries) e.reply
    else if e.call.url = c.address ++ placementsPath resource then
      ∃ found, Shows (Json.Decode.list decodePlacement) e.reply found
    else Tells decodeDefinition e.reply
  else if e.call.url = c.address ++ entriesPath then Accepted e.reply
  else Accepted e.reply ∨ Absent e.reply

/-- A deletion also ends if the stored text is no configuration or the wait does. -/
def EndsDeletion (err : Error) : Prop :=
  err.kind = .timeout ∨ ∃ text fault, PromoterConfig.ofToml text = .error fault
    ∧ err.root = fault.root

/-- **A configuration and its resource are deleted safely**: the text is removed only after its file
was disabled everywhere, and the resource is deleted only after the text is gone and a view of the
placements showed it idle. -/
structure DeletesSafely (c : Controller σ) (path resource : String) (trace : List Exchange)
    (result : Except Error Unit) : Prop where
  entry : OnlyAfter (c.Removes entriesPath path) (c.Forgotten path) trace
  definition : OnlyAfter (·.method = "DELETE")
    (fun before => ∃ prior view, before = prior ++ [view] ∧ c.Gone path prior
      ∧ c.ShowsIdle resource view) trace
  complete : result = .ok () →
    ∃ before reply, trace = before ++ [{ call := c.deleting (definitionPath resource), reply }]

section

variable {resource name : String} {reply : Option Reply}

lemma deletePasses_entries : c.DeletePasses resource { call := c.reading entriesPath, reply }
    ↔ Tells (Json.Decode.list decodeEntries) reply := by
  simp [DeletePasses, reading]

lemma deletePasses_placements :
    c.DeletePasses resource { call := c.reading (placementsPath resource), reply }
      ↔ ∃ found, Shows (Json.Decode.list decodePlacement) reply found := by
  simp [DeletePasses, reading, placementsPath_ne_entriesPath]

lemma deletePasses_definition :
    c.DeletePasses resource { call := c.reading (definitionPath name), reply }
      ↔ Tells decodeDefinition reply := by
  simp [DeletePasses, reading, definitionPath_ne_entriesPath, definitionPath_ne_placementsPath]

lemma deletePasses_removed : c.DeletePasses resource { call := c.removing path, reply }
    ↔ Accepted reply := by
  simp [DeletePasses, removing, changing]

lemma deletePasses_disabled : c.DeletePasses resource { call := c.disabling path name, reply }
    ↔ Accepted reply ∨ Absent reply := by
  simp [DeletePasses, disabling, changing, definitionPath_ne_entriesPath]

lemma deletePasses_deleted :
    c.DeletePasses resource { call := c.deleting (definitionPath name), reply }
      ↔ Accepted reply ∨ Absent reply := by
  simp [DeletePasses, deleting, definitionPath_ne_entriesPath]

lemma EndsDeletion.context (phase : String) (err : Error) (h : EndsDeletion err) :
    EndsDeletion (.context phase err) := h

end

variable {resource : String}

/-! ### Its requests in order -/

lemma orderly_entries : Sends (script.controller address).entries
    (Orderly ((script.controller address).DeletePasses resource) EndsDeletion) :=
  Sends.orderly_bind (orderly_read? fun _ => deletePasses_entries) fun _ => Sends.pure orderly_nil

lemma orderly_anyEnables (path : String) (names : List String) :
    Sends ((script.controller address).anyEnables path names)
      (Orderly ((script.controller address).DeletePasses resource) EndsDeletion) := by
  induction names with
  | nil => exact Sends.pure orderly_nil
  | cons name rest ih =>
      refine Sends.orderly_bind (orderly_read? fun _ => deletePasses_definition)
        fun definition? => ?_
      simp only
      split
      · exact Sends.pure orderly_nil
      · exact ih

lemma orderly_stored (path : String) (config : PromoterConfig) :
    Sends ((script.controller address).stored path config)
      (Orderly ((script.controller address).DeletePasses resource) EndsDeletion) :=
  Sends.orderly_bind (orderly_anyEnables _ _) fun _ => Sends.pure orderly_nil

lemma orderly_findConfig (id : String) : Sends ((script.controller address).findConfig id)
    (Orderly ((script.controller address).DeletePasses resource) EndsDeletion) := by
  refine Sends.orderly_bind orderly_entries fun entries => ?_
  cases entries.find? (PromoterConfig.pathOf id) with
  | none => exact Sends.pure orderly_nil
  | some text =>
      have hread : Sends (Action.ofExcept (PromoterConfig.ofToml text))
          (Orderly ((script.controller address).DeletePasses resource) EndsDeletion) := by
        cases hresult : PromoterConfig.ofToml text with
        | ok config => exact Sends.ofExcept orderly_nil
        | error fault =>
            exact Sends.ofExcept (orderly_excused (.inr ⟨text, fault, hresult, rfl⟩))
      exact Sends.orderly_bind hread fun config => Sends.orderly_map (orderly_stored _ _) some

lemma orderly_forgetOn {passes : Exchange → Prop} {excuse : Error → Prop} {path : String}
    (h : ∀ name reply, passes { call := (script.controller address).disabling path name, reply }
      ↔ Accepted reply ∨ Absent reply) (names : List String) :
    Sends ((script.controller address).forgetOn path names) (Orderly passes excuse) := by
  induction names with
  | nil => exact Sends.pure orderly_nil
  | cons name rest ih => exact Sends.orderly_bind (orderly_orAbsent (h name)) fun _ => ih

lemma orderly_deleteConfig (id : String) : Sends ((script.controller address).deleteConfig id)
    (Orderly ((script.controller address).DeletePasses resource) EndsDeletion) := by
  refine Sends.orderly_bind (orderly_findConfig id) fun stored? => ?_
  cases stored? with
  | none => exact Sends.pure orderly_nil
  | some stored =>
      exact Sends.orderly_bind (orderly_forgetOn (fun _ _ => deletePasses_disabled) _) fun _ =>
        orderly_send fun _ => deletePasses_removed

lemma orderly_poll {done : List Placement → Bool} {late : Error} (hlate : EndsDeletion late)
    (count : Nat) : Sends (Waiter.poll (((script.controller address).placements resource).inPhase
        ("failed to poll resource " ++ resource)) done late count)
      (Orderly ((script.controller address).DeletePasses resource) EndsDeletion) := by
  induction count with
  | zero => exact Sends.throw (orderly_excused hlate)
  | succ count ih =>
      refine Sends.orderly_bind (Sends.orderly_inPhase
        (orderly_read fun _ => deletePasses_placements) EndsDeletion.context _) fun found => ?_
      split
      · exact Sends.pure orderly_nil
      · exact ih

lemma orderly_await (w : Waiter) (goal : String) (done : List Placement → Bool) :
    Sends (Gateway.await ⟨(script.controller address).backend, w⟩ resource goal done)
      (Orderly ((script.controller address).DeletePasses resource) EndsDeletion) := by
  refine Sends.orderly_inPhase ?_ EndsDeletion.context _
  rw [Waiter.waitUntil]
  split
  · exact Sends.throw (orderly_excused (.inl rfl))
  · exact orderly_poll (.inl rfl) _

variable {p : Protocol}

lemma orderly_delete (w : Waiter) (id : p.Identity) :
    Sends (Gateway.delete ⟨(script.controller address).backend, w⟩ id)
      (Orderly ((script.controller address).DeletePasses (Protocol.resourceName id))
        EndsDeletion) := by
  have hdeleted : Sends
      ((script.controller address).send "DELETE"
        (definitionPath (Protocol.resourceName id))).orAbsent
      (Orderly ((script.controller address).DeletePasses (Protocol.resourceName id))
        EndsDeletion) :=
    orderly_orAbsent fun _ => deletePasses_deleted
  refine Sends.orderly_bind (Sends.orderly_inPhase (orderly_deleteConfig (Protocol.configId id))
    EndsDeletion.context _) fun _ => ?_
  exact Sends.orderly_bind (orderly_await w _ _) fun _ =>
    Sends.orderly_inPhase hdeleted EndsDeletion.context _

/-! ### What it found and what it did -/

lemma Told.append {text? : Option String} {trace : List Exchange} (h : c.Told path text? trace)
    (rest : List Exchange) : c.Told path text? (trace ++ rest) := by
  obtain ⟨e, he, htold⟩ := h
  exact ⟨e, List.mem_append_left _ he, htold⟩

lemma Gone.append {trace : List Exchange} (h : c.Gone path trace) (rest : List Exchange) :
    c.Gone path (trace ++ rest) :=
  h.imp (fun htold => htold.append rest) fun ⟨e, he, hremoved⟩ =>
    ⟨e, List.mem_append_left _ he, hremoved⟩

lemma told_entries : Sends (script.controller address).entries fun trace result =>
    ∀ entries, result = .ok entries →
      ∀ path, (script.controller address).Told path (entries.find? path) trace := fun log => by
  rw [entries_apply]
  exact ⟨_, rfl, fun entries h path => ⟨_, List.mem_singleton_self _, rfl, entries, h, rfl⟩⟩

/-- What is stored is the configuration that a text holds. -/
lemma sends_stored (path text : String) : Sends
    (Action.ofExcept (PromoterConfig.ofToml text) >>= fun config =>
      some <$> (script.controller address).stored path config)
    fun _ result => ∀ stored?, result = .ok stored? → ∃ stored, stored? = some stored
      ∧ stored.path = path ∧ PromoterConfig.ofToml text = .ok stored.config := by
  cases hread : PromoterConfig.ofToml text with
  | error fault => exact Sends.throw nofun
  | ok config =>
      have hstored : Sends ((script.controller address).stored path config) fun _ result =>
          ∀ stored, result = .ok stored → stored.path = path ∧ stored.config = config :=
        Sends.bind (sends_onlyReads fun _ h => keeps_anyEnables h _ _) (fun _ _ _ => nofun)
          fun _ _ _ => Sends.pure fun stored h => by cases h; exact ⟨rfl, rfl⟩
      show Sends (some <$> (script.controller address).stored path config) _
      rw [← bind_pure_comp]
      refine Sends.bind hstored (fun _ _ _ => nofun) fun _ stored h =>
        Sends.pure fun stored? h' => ?_
      cases h'
      obtain ⟨hpath, rfl⟩ := h stored rfl
      exact ⟨stored, rfl, hpath, rfl⟩

/-- **A configuration that is found** is what the store told, and none is found if it told none. -/
lemma told_findConfig (id : String) : Sends ((script.controller address).findConfig id)
    fun trace result =>
      (result = .ok none
        → (script.controller address).Told (PromoterConfig.pathOf id) none trace)
      ∧ ∀ stored, result = .ok (some stored) → stored.path = PromoterConfig.pathOf id
        ∧ ∃ text, (script.controller address).Told (PromoterConfig.pathOf id) (some text) trace
          ∧ PromoterConfig.ofToml text = .ok stored.config := by
  refine Sends.bind told_entries (fun _ _ _ => ⟨nofun, nofun⟩) fun trace entries htold => ?_
  have hfound := htold entries rfl (PromoterConfig.pathOf id)
  cases htext : entries.find? (PromoterConfig.pathOf id) with
  | none =>
      rw [htext] at hfound
      refine Sends.pure ?_
      exact ⟨fun _ => hfound.append [], nofun⟩
  | some text =>
      rw [htext] at hfound
      refine (sends_stored (PromoterConfig.pathOf id) text).imp fun rest result hstored => ?_
      refine ⟨fun h => ?_, fun stored h => ?_⟩
      · obtain ⟨stored, h, -⟩ := hstored none h
        cases h
      · obtain ⟨stored', heq, hpath, hread⟩ := hstored _ h
        cases heq
        exact ⟨hpath, text, hfound.append rest, hread⟩

lemma inTurn_forgetOn (path : String) (names : List String) :
    Sends ((script.controller address).forgetOn path names)
      (InTurn (names.map ((script.controller address).disabling path))) := by
  induction names with
  | nil => exact Sends.pure inTurn_nil
  | cons name rest ih => exact Sends.inTurn_bind inTurn_orAbsent fun _ => ih

/-- When a file was disabled on each resource of a configuration that the store told, it is enabled
nowhere any more. -/
lemma forgotten_of_inTurn {text : String} {config : PromoterConfig} {trace rest : List Exchange}
    {excuse : Error → Prop} (htold : c.Told path (some text) trace)
    (hread : PromoterConfig.ofToml text = .ok config)
    (hinTurn : InTurn (config.resources.keys.map (c.disabling path)) rest (.ok ()))
    (horderly : Orderly (fun e => Accepted e.reply ∨ Absent e.reply) excuse rest
      (.ok () : Except Error Unit)) :
    c.Forgotten path (trace ++ rest) := by
  refine ⟨text, config, htold.append rest, hread, fun name hname => ?_⟩
  have hcall : c.disabling path name ∈ rest.map (·.call) :=
    hinTurn.all () rfl ▸ List.mem_map_of_mem hname
  obtain ⟨⟨call, reply⟩, he, rfl⟩ := List.mem_map.1 hcall
  exact ⟨_, List.mem_append_right _ he, ⟨_, _, rfl, List.mem_singleton_self _⟩,
    horderly.passed () rfl _ he⟩

/-- A request that neither removes the text at a path nor deletes anything. -/
def Spares (c : Controller σ) (path : String) (call : Call) : Prop :=
  ¬ c.Removes entriesPath path call ∧ call.method ≠ "DELETE"

lemma spares_of_get (h : call.method = "GET") : c.Spares path call :=
  ⟨fun hremoves => absurd (h.symm.trans hremoves.method_eq) (by decide), by rw [h]; decide⟩

lemma spares_disabling (name : String) : c.Spares path (c.disabling path name) :=
  ⟨fun h => definitionPath_ne_entriesPath name ((String.append_right_inj _).1 h.url_eq),
    (by decide : "PUT" ≠ "DELETE")⟩

/-- The text at a path is removed only after its file was disabled, nothing else is deleted, and
after a success the text is gone. -/
structure RemovesSafely (c : Controller σ) (path : String) (trace : List Exchange)
    (result : Except Error Unit) : Prop where
  entry : OnlyAfter (c.Removes entriesPath path) (c.Forgotten path) trace
  notDeleted : ∀ e ∈ trace, e.call.method ≠ "DELETE"
  gone : result = .ok () → c.Gone path trace

lemma RemovesSafely.inPhase {trace : List Exchange} {result : Except Error Unit}
    (h : c.RemovesSafely path trace result) (phase : String) :
    c.RemovesSafely path trace (FailoverStorage.inPhase phase result) := by
  cases result with
  | ok _ => exact h
  | error err => exact ⟨h.entry, h.notDeleted, nofun⟩

lemma removesSafely_of_spares {trace : List Exchange} {result : Except Error Unit}
    (h : ∀ e ∈ trace, c.Spares path e.call) (hgone : result = .ok () → c.Gone path trace) :
    c.RemovesSafely path trace result where
  entry := onlyAfter_of_not fun e he => (h e he).1
  notDeleted := fun e he => (h e he).2
  gone := hgone

/-- The text at a path is removed last. -/
lemma removesSafely_removing {trace : List Exchange} {reply : Option Reply}
    {result : Except Error Unit} (h : ∀ e ∈ trace, c.Spares path e.call)
    (hforgotten : c.Forgotten path trace) (haccepted : result = .ok () → Accepted reply) :
    c.RemovesSafely path (trace ++ [{ call := c.removing path, reply }]) result where
  entry := OnlyAfter.append (onlyAfter_of_not fun e he => (h e he).1)
    (onlyAfter_singleton (by rwa [List.append_nil]))
  notDeleted := fun e he => by
    rcases List.mem_append.1 he with he | he
    · exact (h e he).2
    · cases List.mem_singleton.1 he
      exact (by decide : "PUT" ≠ "DELETE")
  gone := fun hok => .inr ⟨_, List.mem_append_right _ (List.mem_singleton_self _),
    ⟨_, _, rfl, List.mem_singleton_self _⟩, haccepted hok⟩

/-- A file is disabled on the resources of its configuration, and then its text is removed. -/
lemma sends_removing {text : String} {config : PromoterConfig} {trace : List Exchange}
    (hspares : ∀ e ∈ trace, (script.controller address).Spares path e.call)
    (htold : (script.controller address).Told path (some text) trace)
    (hread : PromoterConfig.ofToml text = .ok config) :
    Sends ((script.controller address).forgetOn path config.resources.keys >>= fun _ =>
        (script.controller address).changeEntries .empty [path])
      fun rest result => (script.controller address).RemovesSafely path (trace ++ rest) result := by
  have hdone : Sends ((script.controller address).forgetOn path config.resources.keys)
      (Orderly (fun e => Accepted e.reply ∨ Absent e.reply) fun _ => False) :=
    orderly_forgetOn (fun _ _ => Iff.rfl) _
  have hkept : ∀ rest (result : Except Error Unit),
      InTurn (config.resources.keys.map ((script.controller address).disabling path)) rest result
      → ∀ e ∈ trace ++ rest, (script.controller address).Spares path e.call := by
    intro rest result hrest e he
    rcases List.mem_append.1 he with he | he
    · exact hspares e he
    · obtain ⟨name, -, hcall⟩ := List.mem_map.1 (hrest.mem he)
      exact hcall ▸ spares_disabling name
  refine Sends.bind (hdone.and (inTurn_forgetOn path _)) ?_ ?_
  · rintro rest err ⟨-, hrest⟩
    exact removesSafely_of_spares (hkept rest _ hrest) nofun
  · rintro rest _ ⟨horderly, hrest⟩
    have hforgotten := forgotten_of_inTurn htold hread hrest horderly
    refine sends_send (fun reply haccepted => ?_) fun reply err _ _ => ?_
    · rw [← List.append_assoc]
      exact removesSafely_removing (hkept rest _ hrest) hforgotten fun _ => haccepted
    · rw [← List.append_assoc]
      exact removesSafely_removing (hkept rest _ hrest) hforgotten nofun

/-- **A configuration is deleted safely.** -/
lemma sends_deleteConfig (id : String) : Sends ((script.controller address).deleteConfig id)
    ((script.controller address).RemovesSafely (PromoterConfig.pathOf id)) := by
  have hreads : Sends ((script.controller address).findConfig id) fun trace _ => OnlyReads trace :=
    sends_onlyReads fun _ h => keeps_findConfig h id
  refine Sends.bind ((told_findConfig id).and hreads) ?_ ?_
  · rintro trace err ⟨-, hreads⟩
    exact removesSafely_of_spares (fun e he => spares_of_get (hreads e he)) nofun
  · rintro trace (_ | stored) ⟨⟨hnone, hsome⟩, hreads⟩
    · refine Sends.pure ?_
      rw [List.append_nil]
      exact removesSafely_of_spares (fun e he => spares_of_get (hreads e he))
        fun _ => .inl (hnone rfl)
    · obtain ⟨hpath, text, htold, hread⟩ := hsome stored rfl
      rw [← hpath] at htold ⊢
      exact sends_removing (fun e he => spares_of_get (hreads e he)) htold hread

/-! ### Waiting and deleting the resource -/

lemma shows_placements (phase : String) :
    Sends (((script.controller address).placements resource).inPhase phase) fun trace result =>
      ∀ found, result = .ok found → ∃ reply,
        trace = [{ call := (script.controller address).reading (placementsPath resource), reply }]
          ∧ Shows (Json.Decode.list decodePlacement) reply found := by
  refine placements_cases.inPhase ?_
  rintro trace (err | x) ⟨reply, rfl, hshows⟩ found h
  · cases h
  · exact ⟨reply, rfl, hshows found h⟩

/-- A wait that succeeds ends with a view that shows the resource idle. -/
def EndsIdle (c : Controller σ) (resource : String) (trace : List Exchange)
    (result : Except Error Unit) : Prop :=
  result = .ok () → ∃ prior view, trace = prior ++ [view] ∧ c.ShowsIdle resource view

lemma endsIdle_poll (phase : String) (late : Error) (count : Nat) :
    Sends (Waiter.poll (((script.controller address).placements resource).inPhase phase)
        Waiter.noneInUse late count)
      ((script.controller address).EndsIdle resource) := by
  induction count with
  | zero => exact Sends.throw nofun
  | succ count ih =>
      refine Sends.bind (shows_placements phase) (fun _ _ _ => nofun) fun trace found hfound => ?_
      obtain ⟨reply, rfl, hshows⟩ := hfound found rfl
      split
      next hidle =>
        refine Sends.pure fun _ => ⟨[], _, rfl, rfl, found, hshows, hidle⟩
      next =>
        refine ih.imp fun rest result hrest hok => ?_
        obtain ⟨prior, view, rfl, hview⟩ := hrest hok
        exact ⟨_ :: prior, view, rfl, hview⟩

lemma endsIdle_await (w : Waiter) (goal : String) :
    Sends (Gateway.await ⟨(script.controller address).backend, w⟩ resource goal Waiter.noneInUse)
      ((script.controller address).EndsIdle resource) := by
  refine Sends.inPhase (T := (script.controller address).EndsIdle resource) ?_ ?_
  · rw [Waiter.waitUntil]
    split
    · exact Sends.throw fun hok => by cases hok
    · exact endsIdle_poll _ _ _
  · rintro trace (err | _) h hok
    · cases hok
    · exact h rfl

/-- Reading afterwards changes nothing. -/
lemma RemovesSafely.append {trace rest : List Exchange} {result : Except Error Unit}
    (h : c.RemovesSafely path trace result) (hrest : OnlyReads rest) :
    c.RemovesSafely path (trace ++ rest) result where
  entry := h.entry.append (onlyAfter_of_not fun e he => (spares_of_get (hrest e he)).1)
  notDeleted := fun e he => by
    rcases List.mem_append.1 he with he | he
    · exact h.notDeleted e he
    · rw [hrest e he]
      decide
  gone := fun hok => (h.gone hok).append rest

lemma RemovesSafely.deletesSafely {trace : List Exchange} {result : Except Error Unit}
    (h : c.RemovesSafely path trace result) (err : Error) :
    c.DeletesSafely path resource trace (.error err) where
  entry := h.entry
  definition := onlyAfter_of_not h.notDeleted
  complete := nofun

/-- The resource is deleted when the text is gone and the wait has ended. -/
lemma deletesSafely_deleting {trace prior : List Exchange} {view : Exchange} {reply : Option Reply}
    {result : Except Error Unit} (h : c.RemovesSafely path trace (.ok ()))
    (hreads : OnlyReads (prior ++ [view])) (hidle : c.ShowsIdle resource view) :
    c.DeletesSafely path resource
      (trace ++ (prior ++ [view]) ++ [{ call := c.deleting (definitionPath resource), reply }])
      result where
  entry := (h.append hreads).entry.append (onlyAfter_of_not fun e he hremoves => by
    cases List.mem_singleton.1 he
    exact absurd hremoves.method_eq (by decide : "DELETE" ≠ "PUT"))
  definition := (onlyAfter_of_not (h.append hreads).notDeleted).append (onlyAfter_singleton
    ⟨trace ++ prior, view, by simp, (h.gone rfl).append prior, hidle⟩)
  complete := fun _ => ⟨_, reply, rfl⟩

lemma sends_delete (w : Waiter) (id : p.Identity) :
    Sends (Gateway.delete ⟨(script.controller address).backend, w⟩ id)
      ((script.controller address).DeletesSafely (PromoterConfig.pathOf (Protocol.configId id))
        (Protocol.resourceName id)) := by
  have hremoves : Sends (((script.controller address).deleteConfig (Protocol.configId id)).inPhase
      ("failed to delete promoter config " ++ Protocol.configId id))
      ((script.controller address).RemovesSafely (PromoterConfig.pathOf (Protocol.configId id))) :=
    Sends.inPhase (sends_deleteConfig _) fun trace result h => h.inPhase _
  have hreads : Sends (Gateway.await ⟨(script.controller address).backend, w⟩
      (Protocol.resourceName id) "stop" Waiter.noneInUse) fun trace _ => OnlyReads trace :=
    sends_onlyReads fun _ h => Gateway.keeps_await (keeps_read h _ _) _ _
  refine Sends.bind hremoves (fun trace err h => h.deletesSafely err) fun trace _ htrace => ?_
  refine Sends.bind (hreads.and (endsIdle_await w "stop")) ?_ ?_
  · rintro rest err ⟨hrest, -⟩
    exact (htrace.append hrest).deletesSafely err
  · rintro rest _ ⟨hrest, hidle⟩
    obtain ⟨prior, view, rfl, hview⟩ := hidle rfl
    have hdeleted : Sends ((script.controller address).send "DELETE"
        (definitionPath (Protocol.resourceName id))).orAbsent fun last _ => ∃ reply,
          last = [⟨(script.controller address).deleting
            (definitionPath (Protocol.resourceName id)), reply⟩] :=
      sends_orAbsent (fun reply _ => ⟨reply, rfl⟩) fun reply _ _ => ⟨reply, rfl⟩
    refine Sends.inPhase hdeleted fun last result hlast => ?_
    obtain ⟨reply, rfl⟩ := hlast
    rw [← List.append_assoc]
    exact deletesSafely_deleting htrace hrest hview

/-- **Wherever attaching or deleting is cut, what was carried out is safe**, whatever the controller
answers: no property enables a file before its text was written, no text is removed before its file
was disabled everywhere, and no resource is deleted before its text is gone and it was seen idle.
The first request that is not answered as it must be is the last one. -/
theorem safe_at_every_cut (script : Script) (address : String) :
    (∀ config : PromoterConfig, Sends ((script.controller address).attach config)
      fun trace result => (script.controller address).AttachesSafely config trace result
        ∧ Orderly (fun e => Accepted e.reply) (fun _ => False) trace result)
      ∧ ∀ (p : Protocol) (w : Waiter) (id : p.Identity),
        Sends (Gateway.delete ⟨(script.controller address).backend, w⟩ id) fun trace result =>
          (script.controller address).DeletesSafely (PromoterConfig.pathOf (Protocol.configId id))
              (Protocol.resourceName id) trace result
            ∧ Orderly ((script.controller address).DeletePasses (Protocol.resourceName id))
              EndsDeletion trace result :=
  ⟨fun config => (sends_attach config).and (orderly_attach config),
    fun _ w id => (sends_delete w id).and (orderly_delete w id)⟩

end Controller

end FailoverStorage

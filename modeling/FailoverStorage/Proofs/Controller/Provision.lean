import FailoverStorage.Proofs.Controller.Acceptance
import FailoverStorage.Proofs.Controller.Traces

/-!
# Provisioning

What is sent to create a resource, or to bring one towards a request, depends on what is there: the
definition, its properties, its volumes and its placements are each asked for before anything about
them is sent.  So the first answers decide what is written (`Controller.planned`), and what is
written is a part of it from the beginning on, however the controller answers later
(`Controller.provisions_as_planned`).  That makes repeating safe: what was carried out shows in the
answers and is not planned again.
-/

namespace FailoverStorage

open FailoverStorage.Action

namespace Controller

variable {σ α β : Type}

/-! ## Paths -/

/-- The path of a group. -/
def groupPath (name : String) : String := "/v1/resource-groups/" ++ Http.percentEncode name

lemma definitionPath_ne_groupPath (name group : String) : definitionPath name ≠ groupPath group :=
  append_ne_append (by decide +kernel) _ _

lemma placementsPath_ne_groupPath (name group : String) : placementsPath name ≠ groupPath group :=
  append_ne_append (by decide +kernel) _ _

lemma volumesPath_eq (name : String) : volumesPath name
    = "/v1/resource-definitions/" ++ (Http.percentEncode name ++ "/volume-definitions") :=
  String.append_assoc

lemma volumesPath_ne_groupPath (name group : String) : volumesPath name ≠ groupPath group := by
  rw [volumesPath_eq]
  exact append_ne_append (by decide +kernel) _ _

lemma volumesPath_ne_placementsPath (name other : String) :
    volumesPath name ≠ placementsPath other := by
  rw [volumesPath_eq]
  exact append_ne_append (by decide +kernel) _ _

lemma volumesPath_ne_definitionPath (name : String) : volumesPath name ≠ definitionPath name := by
  intro h
  have hlength := congrArg String.length h
  simp [volumesPath] at hlength

/-! ## What a trace shows -/

/-- The requests of a trace that do not just read. -/
def written (trace : List Exchange) : List Call :=
  (trace.filter fun e => e.call.method ≠ "GET").map (·.call)

/-- What the first answer to reading a path tells. -/
def toldFirst (c : Controller σ) (decode : Json.Decoder α) (path : String)
    (trace : List Exchange) : Except Error (Option α) :=
  told decode path
    ((trace.find? fun e => e.call.method = "GET" ∧ e.call.url = c.address ++ path).bind (·.reply))

/-- Nothing in a trace reads a path. -/
def Unread (c : Controller σ) (path : String) (trace : List Exchange) : Prop :=
  ∀ e ∈ trace, ¬ (e.call.method = "GET" ∧ e.call.url = c.address ++ path)

section

variable {c : Controller σ} {decode : Json.Decoder α} {path other : String}
  {trace rest : List Exchange} {reply : Option Reply} {calls : List Call}

lemma written_append : written (trace ++ rest) = written trace ++ written rest := by
  rw [written, List.filter_append, List.map_append]
  rfl

lemma written_of_onlyReads (h : OnlyReads trace) : written trace = [] := by
  rw [written, List.filter_eq_nil_iff.2 fun e he => by simp [h e he], List.map_nil]

lemma written_of_notReads (h : ∀ e ∈ trace, e.call.method ≠ "GET") :
    written trace = trace.map (·.call) := by
  rw [written, List.filter_eq_self.2 fun e he => by simp [h e he]]

lemma toldFirst_cons : c.toldFirst decode path ({ call := c.reading path, reply } :: rest)
    = told decode path reply := by
  simp [toldFirst, reading]

lemma toldFirst_append (h : c.Unread path trace) :
    c.toldFirst decode path (trace ++ rest) = c.toldFirst decode path rest := by
  have hnone : trace.find? (fun e => e.call.method = "GET" ∧ e.call.url = c.address ++ path)
      = none := List.find?_eq_none.2 fun e he => by simpa using h e he
  rw [toldFirst, List.find?_append, hnone, Option.none_or, toldFirst]

lemma unread_reading (h : other ≠ path) : c.Unread path [{ call := c.reading other, reply }] := by
  rintro e he ⟨-, hurl⟩
  cases List.mem_singleton.1 he
  exact h ((String.append_right_inj _).1 hurl)

lemma unread_of_notReads (h : ∀ e ∈ trace, e.call.method ≠ "GET") : c.Unread path trace :=
  fun e he hread => h e he hread.1

lemma Unread.append (h : c.Unread path trace) (hrest : c.Unread path rest) :
    c.Unread path (trace ++ rest) := fun e he => by
  rcases List.mem_append.1 he with he | he
  · exact h e he
  · exact hrest e he

end

/-! ## The plan -/

/-- The request that creates a definition. -/
def defining (c : Controller σ) (request : ResourceRequest) : Call :=
  { method := "POST", url := c.address ++ "/v1/resource-definitions"
    body := some (definitionJson request) }

/-- The request that creates a volume.  It is sized gross if this was requested, unless it is the
private one. -/
def definingVolume (c : Controller σ) (request : ResourceRequest) (v : Volume) : Call :=
  { method := "POST", url := c.address ++ volumesPath request.name
    body := some (.object [("volume_definition", .object [
      ("volume_number", .ofNat v.number.toNat), ("size_kib", .ofNat v.sizeKib.toNat),
      ("flags", .texts
        (if request.grossSize = true ∧ v.number ≠ 0 then ["GROSS_SIZE"] else []))])]) }

/-- The request that places a resource. -/
def placing (c : Controller σ) (name : String) : Call :=
  { method := "POST", url := c.address ++ (definitionPath name ++ "/autoplace")
    body := some (.object []) }

/-- The request for the properties that differ, if any do. -/
def updatingProperties (c : Controller σ) (request : ResourceRequest)
    (current : SortedMap String String) : List Call :=
  let changed := request.properties.filter fun key value => current.find? key ≠ some value
  if changed.isEmpty then [] else [c.changing (definitionPath request.name) changed []]

/-- **The definition and its volumes** are created if there is no definition.  Else the properties
that differ are set and the volumes that are absent are created. -/
def plannedDefinition (c : Controller σ) (request : ResourceRequest) (trace : List Exchange) :
    List Call :=
  match c.toldFirst decodeDefinition (definitionPath request.name) trace,
    c.toldFirst (Json.Decode.list decodeVolume) (volumesPath request.name) trace with
  | .ok none, _ => c.defining request :: request.volumes.map (c.definingVolume request)
  | .ok (some definition), .ok (some existing) =>
    c.updatingProperties request definition.properties
      ++ (request.volumes.filter fun v => ∀ d ∈ existing, d.number ≠ v.number).map
        (c.definingVolume request)
  | _, _ => []

/-- **The resource is placed** if a view shows no placements. -/
def plannedPlacement (c : Controller σ) (request : ResourceRequest) (trace : List Exchange) :
    List Call :=
  match c.toldFirst (Json.Decode.list decodePlacement) (placementsPath request.name) trace with
  | .ok (some []) => [c.placing request.name]
  | _ => []

/-- **What is planned**, going by the first answers of a trace. -/
def planned (c : Controller σ) (request : ResourceRequest) (trace : List Exchange) : List Call :=
  c.plannedDefinition request trace ++ c.plannedPlacement request trace

section

variable {c : Controller σ} {request : ResourceRequest} {trace rest : List Exchange}
  {reply reply' : Option Reply}

/-- The definition is asked for first. -/
lemma plannedDefinition_absent (h : Absent reply) : c.plannedDefinition request
    ({ call := c.reading (definitionPath request.name), reply } :: rest)
      = c.defining request :: request.volumes.map (c.definingVolume request) := by
  rw [plannedDefinition, toldFirst_cons, told_of_absent h]

lemma plannedDefinition_shows {definition : ResourceDefinition} {existing : List VolumeDefinition}
    (h : Shows decodeDefinition reply definition)
    (h' : Shows (Json.Decode.list decodeVolume) reply' existing) : c.plannedDefinition request
    ({ call := c.reading (definitionPath request.name), reply }
      :: { call := c.reading (volumesPath request.name), reply := reply' } :: rest)
      = c.updatingProperties request definition.properties
        ++ (request.volumes.filter fun v => ∀ d ∈ existing, d.number ≠ v.number).map
          (c.definingVolume request) := by
  have hvolumes : c.toldFirst (Json.Decode.list decodeVolume) (volumesPath request.name)
      ({ call := c.reading (definitionPath request.name), reply }
        :: { call := c.reading (volumesPath request.name), reply := reply' } :: rest)
      = .ok (some existing) := by
    refine (toldFirst_append (unread_reading (volumesPath_ne_definitionPath _).symm)).trans ?_
    rw [toldFirst_cons, told_of_shows h']
  rw [plannedDefinition, toldFirst_cons, told_of_shows h, hvolumes]

lemma plannedPlacement_shows {found : List Placement}
    (h : Shows (Json.Decode.list decodePlacement) reply found) : c.plannedPlacement request
    ({ call := c.reading (placementsPath request.name), reply } :: rest)
      = if found.isEmpty then [c.placing request.name] else [] := by
  rw [plannedPlacement, toldFirst_cons, told_of_shows h]
  cases found <;> rfl

lemma plannedPlacement_append (h : c.Unread (placementsPath request.name) trace) :
    c.plannedPlacement request (trace ++ rest) = c.plannedPlacement request rest := by
  rw [plannedPlacement, toldFirst_append h, plannedPlacement]

end

/-! ## Writing -/

/-- **Some requests are written**, from the first one on: all of them if the action succeeds. -/
structure Writes (calls : List Call) (trace : List Exchange) (result : Except Error α) : Prop where
  among : written trace <+: calls
  all : ∀ x, result = .ok x → written trace = calls

section

variable {c : Controller σ} {request : ResourceRequest} {calls calls' : List Call}
  {trace rest : List Exchange} {result : Except Error α}

lemma writes_nil (h : OnlyReads trace) : Writes [] trace result where
  among := by simp [written_of_onlyReads h]
  all := fun _ _ => written_of_onlyReads h

lemma writes_error (h : OnlyReads trace) (err : Error) :
    Writes calls trace (.error err : Except Error α) where
  among := by
    rw [written_of_onlyReads h]
    exact List.nil_prefix
  all := nofun

lemma Writes.append {x : α} {result' : Except Error β} (h : Writes calls trace (.ok x))
    (hrest : Writes calls' rest result') : Writes (calls ++ calls') (trace ++ rest) result' where
  among := by
    rw [written_append, h.all x rfl]
    exact (List.prefix_append_right_inj _).2 hrest.among
  all := fun y hy => by rw [written_append, h.all x rfl, hrest.all y hy]

lemma Writes.congr (h : Writes calls trace result) (hcalls : calls = calls') :
    Writes calls' trace result := hcalls ▸ h

/-- Reading before changes nothing. -/
lemma Writes.of_reads (hreads : OnlyReads trace) (h : Writes calls rest result) :
    Writes calls (trace ++ rest) result := by
  have hstart : Writes [] trace (.ok () : Except Error Unit) := writes_nil hreads
  exact hstart.append h

/-- Reading afterwards changes nothing. -/
lemma Writes.append_reads {x : α} {result' : Except Error β} (h : Writes calls trace (.ok x))
    (hreads : OnlyReads rest) : Writes calls (trace ++ rest) result' := by
  have hend : Writes [] rest result' := writes_nil hreads
  rw [← List.append_nil calls]
  exact h.append hend

/-- What fails may have had more to write. -/
lemma Writes.error {err : Error} (h : Writes calls trace (.error err : Except Error α))
    (hcalls : calls <+: calls') : Writes calls' trace (.error err : Except Error β) where
  among := h.among.trans hcalls
  all := nofun

lemma InTurn.notReads (h : InTurn calls trace result)
    (hcalls : ∀ call ∈ calls, call.method ≠ "GET") : ∀ e ∈ trace, e.call.method ≠ "GET" :=
  fun _ he => hcalls _ (h.mem he)

/-- What is sent in turn and does not just read is written. -/
lemma InTurn.writes (h : InTurn calls trace result)
    (hcalls : ∀ call ∈ calls, call.method ≠ "GET") : Writes calls trace result where
  among := by
    rw [written_of_notReads (h.notReads hcalls)]
    exact h.among
  all := fun x hx => by
    rw [written_of_notReads (h.notReads hcalls)]
    exact h.all x hx

lemma method_definingVolume {volumes : List Volume} {call : Call}
    (h : call ∈ volumes.map (c.definingVolume request)) : call.method ≠ "GET" := by
  obtain ⟨v, -, rfl⟩ := List.mem_map.1 h
  exact (by decide : "POST" ≠ "GET")

lemma method_updatingProperties {current : SortedMap String String} {call : Call}
    (h : call ∈ c.updatingProperties request current) : call.method ≠ "GET" := by
  rw [updatingProperties] at h
  split at h
  · cases h
  · cases List.mem_singleton.1 h
    exact (by decide : "PUT" ≠ "GET")

end

variable {script : Script} {address : String} {request : ResourceRequest}

lemma definingVolume_eq (c : Controller σ) (v : Volume) : c.definingVolume request v
    = { method := "POST", url := c.address ++ volumesPath request.name
        body := some (volumeJson (request.volumeDefinition v)) } := by
  have hflags : (request.grossSize && v.number ≠ Volume.privateNumber) = true
      ↔ request.grossSize = true ∧ v.number ≠ 0 := by
    rw [Bool.and_eq_true, decide_eq_true_eq]
    rfl
  simp only [definingVolume, volumeJson, ResourceRequest.volumeDefinition, hflags]

/-- Volumes are created one after another. -/
lemma inTurn_defineVolumes (volumes : List Volume) :
    Sends ((script.controller address).defineVolumes request volumes)
      (InTurn (volumes.map ((script.controller address).definingVolume request))) := by
  induction volumes with
  | nil => exact Sends.pure inTurn_nil
  | cons v rest ih =>
      have hsend : Sends (((script.controller address).send "POST" (volumesPath request.name)
          (some (volumeJson (request.volumeDefinition v)))).inPhase
            ("failed to create volume " ++ request.name ++ "/" ++ Text.decimal v.number.toNat))
          (InTurn [(script.controller address).definingVolume request v]) := by
        rw [definingVolume_eq]
        exact inTurn_send.inPhase fun _ _ h => h.inPhase _
      exact Sends.inTurn_bind hsend fun _ => ih

lemma inTurn_defining : Sends (((script.controller address).send "POST" "/v1/resource-definitions"
    (some (definitionJson request))).inPhase
      ("failed to create resource definition " ++ request.name))
    (InTurn [(script.controller address).defining request]) :=
  inTurn_send.inPhase fun _ _ h => h.inPhase _

lemma inTurn_return {a : Action (List Exchange) Unit} {calls : List Call}
    (h : Sends a (InTurn calls)) (x : α) : Sends (a >>= fun _ => Pure.pure x) fun trace result =>
      InTurn calls trace result ∧ ∀ y, result = .ok y → y = x := by
  refine h.bind (fun trace err h => ⟨⟨h.among, nofun⟩, nofun⟩) fun trace _ h => Sends.pure ?_
  rw [List.append_nil]
  exact ⟨⟨h.among, fun _ _ => h.all () rfl⟩, fun _ hok => (Except.ok.inj hok).symm⟩

lemma inTurn_updating (definition : ResourceDefinition) (missing : List Volume) :
    Sends ((script.controller address).updating request definition missing) fun trace result =>
      InTurn ((script.controller address).updatingProperties request definition.properties)
          trace result
        ∧ ∀ volumes, result = .ok volumes → volumes = missing := by
  have hcalls : (script.controller address).updatingProperties request definition.properties
      = if (request.changedProperties definition.properties).isEmpty then []
        else [(script.controller address).changing (definitionPath request.name)
          (request.changedProperties definition.properties) []] := rfl
  rw [updating, hcalls]
  split
  next hchanged =>
    rw [if_neg (by simpa using hchanged)]
    exact inTurn_return (inTurn_send.inPhase fun _ _ h => h.inPhase _) missing
  next hchanged =>
    rw [if_pos (by simpa using hchanged)]
    exact Sends.pure ⟨inTurn_nil, fun _ hok => (Except.ok.inj hok).symm⟩

/-- The volumes that are missing are the requested ones that are absent. -/
lemma missing_eq_filter {name : String} {existing : List VolumeDefinition} {mayExtend : Bool}
    {volumes missing : List Volume}
    (h : ResourceRequest.missingAmong name existing mayExtend volumes = .ok missing) :
    missing = volumes.filter fun v => ∀ d ∈ existing, d.number ≠ v.number := by
  induction volumes generalizing missing with
  | nil =>
      cases h
      rfl
  | cons v rest ih =>
      rw [ResourceRequest.missingAmong] at h
      cases hfind : existing.find? (·.number = v.number) with
      | some d =>
          simp only [hfind] at h
          split at h
          · obtain ⟨hmem, hnumber⟩ := number_of_find?_eq_some hfind
            rw [List.filter_cons_of_neg (by simpa using ⟨d, hmem, hnumber⟩)]
            exact ih h
          · cases h
      | none =>
          have habsent : ∀ d ∈ existing, d.number ≠ v.number := by simpa using hfind
          simp only [hfind] at h
          split at h
          · obtain ⟨missing', hrest, rfl⟩ := map_eq_ok_iff.1 h
            rw [List.filter_cons_of_pos (by simpa using habsent), ← ih hrest]
          · cases h

/-! ## Following the plan -/

/-- **Preparing a resource** writes the definition that is planned without its missing volumes.  The
placements are not read yet. -/
structure Prepares (c : Controller σ) (request : ResourceRequest) (trace : List Exchange)
    (result : Except Error (List Volume)) : Prop where
  done : ∀ missing, result = .ok missing → ∀ rest, c.plannedDefinition request (trace ++ rest)
    = written trace ++ missing.map (c.definingVolume request)
  failed : ∀ err, result = .error err → written trace <+: c.plannedDefinition request trace
  unread : c.Unread (placementsPath request.name) trace

lemma prepares_of_onlyReads {c : Controller σ} {trace : List Exchange} {err : Error}
    (h : OnlyReads trace) (hunread : c.Unread (placementsPath request.name) trace) :
    c.Prepares request trace (.error err) where
  done := nofun
  failed := fun err _ => (writes_error (α := Unit) h err).among
  unread := hunread

/-- What was read decides about the definition, and then what is planned is written. -/
lemma Prepares.of_inTurn {c : Controller σ} {trace rest : List Exchange} {calls : List Call}
    {missing : List Volume} {result : Except Error (List Volume)} (hreads : OnlyReads trace)
    (hunread : c.Unread (placementsPath request.name) trace)
    (hplan : ∀ rest, c.plannedDefinition request (trace ++ rest)
      = calls ++ missing.map (c.definingVolume request))
    (hcalls : ∀ call ∈ calls, call.method ≠ "GET") (hrest : InTurn calls rest result)
    (hmissing : ∀ volumes, result = .ok volumes → volumes = missing) :
    c.Prepares request (trace ++ rest) result where
  done := fun volumes hok later => by
    rw [List.append_assoc, hplan, ((hrest.writes hcalls).of_reads hreads).all volumes hok,
      hmissing volumes hok]
  failed := fun _ _ => by
    rw [hplan]
    exact ((hrest.writes hcalls).of_reads hreads).among.trans (List.prefix_append _ _)
  unread := hunread.append (unread_of_notReads (hrest.notReads hcalls))

/-- **Preparing a resource** follows the plan. -/
lemma sends_prepare (mayExtend : Bool) :
    Sends ((script.controller address).prepare request mayExtend)
      ((script.controller address).Prepares request) := by
  refine Sends.bind read?_cases ?_ ?_
  · rintro trace err ⟨reply, rfl, -⟩
    exact prepares_of_onlyReads onlyReads_reading
      (unread_reading (definitionPath_ne_placementsPath _ _))
  rintro trace (_ | definition) ⟨reply, rfl, habsent, hdefinition⟩
  · refine (inTurn_return inTurn_defining request.volumes).imp
      fun rest result ⟨hrest, hmissing⟩ => ?_
    refine Prepares.of_inTurn onlyReads_reading
      (unread_reading (definitionPath_ne_placementsPath _ _))
      (fun rest => plannedDefinition_absent (habsent rfl)) (fun call hcall => ?_) hrest hmissing
    cases List.mem_singleton.1 hcall
    exact (by decide : "POST" ≠ "GET")
  · have hreads : ∀ reply', OnlyReads
        ([⟨(script.controller address).reading (definitionPath request.name), reply⟩]
          ++ [⟨(script.controller address).reading (volumesPath request.name), reply'⟩]) :=
      fun _ => onlyReads_reading.append onlyReads_reading
    have hunread : ∀ reply', (script.controller address).Unread (placementsPath request.name)
        ([⟨(script.controller address).reading (definitionPath request.name), reply⟩]
          ++ [⟨(script.controller address).reading (volumesPath request.name), reply'⟩]) :=
      fun _ => (unread_reading (definitionPath_ne_placementsPath _ _)).append
        (unread_reading (volumesPath_ne_placementsPath _ _))
    refine Sends.bind read_cases ?_ ?_
    · rintro trace err ⟨reply', rfl, -⟩
      exact prepares_of_onlyReads (hreads reply') (hunread reply')
    rintro trace existing ⟨reply', rfl, hexisting⟩
    cases hmissing : request.missingVolumes existing mayExtend with
    | error err => exact Sends.throw (prepares_of_onlyReads (hreads reply') (hunread reply'))
    | ok missing =>
        refine (inTurn_updating definition missing).imp fun rest result ⟨hrest, hvolumes⟩ => ?_
        rw [← List.append_assoc]
        refine Prepares.of_inTurn (hreads reply') (hunread reply') (fun rest => ?_)
          (fun _ => method_updatingProperties) hrest hvolumes
        rw [missing_eq_filter hmissing]
        exact plannedDefinition_shows (hdefinition _ rfl) (hexisting _ rfl)

/-- **Placing a resource** writes what is planned for it. -/
lemma sends_placed : Sends ((script.controller address).placed request.name) fun trace result =>
    ∀ rest, Writes ((script.controller address).plannedPlacement request (trace ++ rest))
      trace result := by
  have hplace : Sends (((script.controller address).send "POST"
      (definitionPath request.name ++ "/autoplace") (some (.object []))).inPhase
        ("failed to place resource " ++ request.name))
      (InTurn [(script.controller address).placing request.name]) :=
    inTurn_send.inPhase fun _ _ h => h.inPhase _
  have hwritten : ∀ call ∈ [(script.controller address).placing request.name],
      call.method ≠ "GET" := fun call hcall => by
    cases List.mem_singleton.1 hcall
    exact (by decide : "POST" ≠ "GET")
  refine Sends.bind placements_cases ?_ ?_
  · rintro trace err ⟨reply, rfl, -⟩ rest
    exact writes_error onlyReads_reading err
  rintro trace found ⟨reply, rfl, hfound⟩
  have hplan : ∀ rest, (script.controller address).plannedPlacement request
      (⟨(script.controller address).reading (placementsPath request.name), reply⟩ :: rest)
        = if found.isEmpty then [(script.controller address).placing request.name] else [] :=
    fun rest => plannedPlacement_shows (hfound found rfl)
  split
  next hempty =>
    simp only [if_pos hempty] at hplan
    refine Sends.bind hplace (fun rest err h later => ?_) fun rest _ h => placements_cases.imp ?_
    · exact ((h.writes hwritten).of_reads onlyReads_reading).error ((hplan _) ▸ List.prefix_rfl)
    · rintro again result ⟨reply', rfl, -⟩ later
      exact (((h.writes hwritten).append_reads onlyReads_reading).of_reads
        onlyReads_reading).congr (hplan _).symm
  next hplaced =>
    simp only [if_neg hplaced] at hplan
    exact Sends.pure fun rest => (writes_nil onlyReads_reading).congr (hplan _).symm

/-- After a resource was prepared, everything that is planned is written. -/
lemma writes_finishing {group : ResourceGroup} {missing : List Volume} {trace : List Exchange}
    (hprepared : (script.controller address).Prepares request trace (.ok missing)) :
    Sends ((script.controller address).finishing request group missing) fun rest result =>
      Writes ((script.controller address).planned request (trace ++ rest)) (trace ++ rest)
        result := by
  have hstart : Writes (written trace) trace (.ok missing : Except Error (List Volume)) :=
    ⟨List.prefix_rfl, fun _ _ => rfl⟩
  have hplanned : ∀ rest later, (∀ e ∈ rest, e.call.method ≠ "GET") →
      (script.controller address).planned request (trace ++ rest ++ later)
        = written trace ++ missing.map ((script.controller address).definingVolume request)
          ++ (script.controller address).plannedPlacement request later := by
    intro rest later hrest
    rw [planned, plannedPlacement_append (hprepared.unread.append (unread_of_notReads hrest)),
      List.append_assoc, hprepared.done missing rfl]
  refine Sends.bind (inTurn_defineVolumes missing) ?_ ?_
  · intro rest err hrest
    have hwritten := hstart.append (hrest.writes fun _ => method_definingVolume)
    refine hwritten.error ?_
    rw [← List.append_nil (trace ++ rest),
      hplanned rest [] (hrest.notReads fun _ => method_definingVolume)]
    exact List.prefix_append _ _
  intro rest _ hrest
  have hwritten := hstart.append (hrest.writes fun _ => method_definingVolume)
  have hplan := fun later => hplanned rest later (hrest.notReads fun _ => method_definingVolume)
  refine Sends.bind sends_placed ?_ ?_
  · intro placing err hplacing
    rw [← List.append_assoc, hplan]
    exact (hwritten.append (hplacing [])).error (by simp)
  intro placing found hplacing
  refine Sends.imp (T := fun trace _ => OnlyReads trace)
    (sends_onlyReads fun P h => Triple.bind (keeps_read? h _ _) fun definition? => ?_)
    fun last result hlast => ?_
  · cases definition? with
    | some definition => exact (readOnly_pure _).keeps P
    | none => exact (readOnly_throw _).keeps P
  · rw [← List.append_assoc, hplan, ← List.append_assoc]
    exact (hwritten.append (hplacing last)).append_reads hlast

/-- The group is not asked for what is planned. -/
lemma planned_append_group {c : Controller σ} {reply : Option Reply} {rest : List Exchange} :
    c.planned request
      ([{ call := c.reading (groupPath request.resourceGroup), reply }] ++ rest)
      = c.planned request rest := by
  rw [planned, plannedDefinition,
    toldFirst_append (unread_reading (definitionPath_ne_groupPath _ _).symm),
    toldFirst_append (unread_reading (volumesPath_ne_groupPath _ _).symm),
    plannedPlacement_append (unread_reading (placementsPath_ne_groupPath _ _).symm), planned,
    plannedDefinition]

lemma writes_ensureResource (mayExtend : Bool) :
    Sends ((script.controller address).ensureResource request mayExtend) fun trace result =>
      Writes ((script.controller address).planned request trace) trace result := by
  have hgroup : Sends ((script.controller address).group? request.resourceGroup)
      fun trace _ => ∃ reply,
        trace = [⟨(script.controller address).reading (groupPath request.resourceGroup), reply⟩] :=
    read?_cases.imp fun _ _ ⟨reply, htrace, _⟩ => ⟨reply, htrace⟩
  refine Sends.bind hgroup ?_ ?_
  · rintro trace err ⟨reply, rfl⟩
    exact writes_error onlyReads_reading err
  rintro trace (_ | group) ⟨reply, rfl⟩
  · exact Sends.throw (writes_error onlyReads_reading _)
  have hrest : Sends (do
      let missing ← (script.controller address).prepare request mayExtend
      (script.controller address).finishing request group missing) fun trace result =>
        Writes ((script.controller address).planned request trace) trace result :=
    Sends.bind (sends_prepare mayExtend)
      (fun trace err h => ⟨(h.failed err rfl).trans (List.prefix_append _ _), nofun⟩)
      fun trace missing h => writes_finishing h
  refine hrest.imp fun rest result h => ?_
  rw [planned_append_group]
  exact h.of_reads onlyReads_reading

/-! ## Stopping -/

/-- **What must come back for provisioning to go on**: a definition must be told, the group, the
volumes and the placements shown, and whatever is written must be carried out. -/
def ProvisionPasses (c : Controller σ) (request : ResourceRequest) (e : Exchange) : Prop :=
  if e.call.method = "GET" then
    if e.call.url = c.address ++ groupPath request.resourceGroup then
      ∃ group, Shows decodeGroup e.reply group
    else if e.call.url = c.address ++ volumesPath request.name then
      ∃ existing, Shows (Json.Decode.list decodeVolume) e.reply existing
    else if e.call.url = c.address ++ placementsPath request.name then
      ∃ found, Shows (Json.Decode.list decodePlacement) e.reply found
    else Tells decodeDefinition e.reply
  else Accepted e.reply

/-- Provisioning also ends in a conflict, or if at last there is no definition. -/
def EndsProvision (request : ResourceRequest) (err : Error) : Prop :=
  err.kind = .conflict ∨ err.root = .notFound "resource-definition" request.name

lemma EndsProvision.context (phase : String) (err : Error) (h : EndsProvision request err) :
    EndsProvision request (.context phase err) := h

section

variable {c : Controller σ} {reply : Option Reply}

lemma provisionPasses_group :
    c.ProvisionPasses request { call := c.reading (groupPath request.resourceGroup), reply }
      ↔ ∃ group, Shows decodeGroup reply group := by
  simp [ProvisionPasses, reading]

lemma provisionPasses_volumes :
    c.ProvisionPasses request { call := c.reading (volumesPath request.name), reply }
      ↔ ∃ existing, Shows (Json.Decode.list decodeVolume) reply existing := by
  simp [ProvisionPasses, reading, volumesPath_ne_groupPath]

lemma provisionPasses_placements :
    c.ProvisionPasses request { call := c.reading (placementsPath request.name), reply }
      ↔ ∃ found, Shows (Json.Decode.list decodePlacement) reply found := by
  simp [ProvisionPasses, reading, placementsPath_ne_groupPath,
    (volumesPath_ne_placementsPath _ _).symm]

lemma provisionPasses_definition :
    c.ProvisionPasses request { call := c.reading (definitionPath request.name), reply }
      ↔ Tells decodeDefinition reply := by
  simp [ProvisionPasses, reading, definitionPath_ne_groupPath, definitionPath_ne_placementsPath,
    (volumesPath_ne_definitionPath _).symm]

lemma provisionPasses_written {method path : String} {body : Option Json} (h : method ≠ "GET") :
    c.ProvisionPasses request { call := { method, url := path, body }, reply }
      ↔ Accepted reply := by
  simp [ProvisionPasses, h]

end

lemma orderly_written {method path : String} {body : Option Json} (h : method ≠ "GET")
    (phase : String) : Sends (((script.controller address).send method path body).inPhase phase)
      (Orderly ((script.controller address).ProvisionPasses request) (EndsProvision request)) :=
  Sends.orderly_inPhase (orderly_send fun _ => provisionPasses_written h) EndsProvision.context
    phase

lemma orderly_defineVolumes (volumes : List Volume) :
    Sends ((script.controller address).defineVolumes request volumes)
      (Orderly ((script.controller address).ProvisionPasses request) (EndsProvision request)) := by
  induction volumes with
  | nil => exact Sends.pure orderly_nil
  | cons v rest ih => exact Sends.orderly_bind (orderly_written (by decide) _) fun _ => ih

lemma orderly_placed : Sends ((script.controller address).placed request.name)
    (Orderly ((script.controller address).ProvisionPasses request) (EndsProvision request)) := by
  have hview : Sends ((script.controller address).placements request.name)
      (Orderly ((script.controller address).ProvisionPasses request) (EndsProvision request)) :=
    orderly_read fun _ => provisionPasses_placements
  refine Sends.orderly_bind hview fun found => ?_
  split
  · exact Sends.orderly_bind (orderly_written (by decide) _) fun _ => hview
  · exact Sends.pure orderly_nil

lemma orderly_updating (definition : ResourceDefinition) (missing : List Volume) :
    Sends ((script.controller address).updating request definition missing)
      (Orderly ((script.controller address).ProvisionPasses request) (EndsProvision request)) := by
  rw [updating]
  split
  · exact Sends.orderly_bind (orderly_written (by decide) _) fun _ => Sends.pure orderly_nil
  · exact Sends.pure orderly_nil

lemma kind_missingAmong {name : String} {existing : List VolumeDefinition} {mayExtend : Bool}
    {volumes : List Volume} {err : Error}
    (h : ResourceRequest.missingAmong name existing mayExtend volumes = .error err) :
    err.kind = .conflict := by
  induction volumes generalizing err with
  | nil => cases h
  | cons v rest ih =>
      rw [ResourceRequest.missingAmong] at h
      split at h
      · split at h
        · exact ih h
        · cases h
          rfl
      · split at h
        · cases hrest : ResourceRequest.missingAmong name existing mayExtend rest with
          | ok missing =>
              rw [hrest] at h
              cases h
          | error err' =>
              rw [hrest] at h
              cases h
              exact ih hrest
        · cases h
          rfl

lemma orderly_prepare (mayExtend : Bool) :
    Sends ((script.controller address).prepare request mayExtend)
      (Orderly ((script.controller address).ProvisionPasses request) (EndsProvision request)) := by
  refine Sends.orderly_bind (orderly_read? fun _ => provisionPasses_definition)
    fun definition? => ?_
  cases definition? with
  | none => exact Sends.orderly_bind (orderly_written (by decide) _) fun _ => Sends.pure orderly_nil
  | some definition =>
      refine Sends.orderly_bind (orderly_read fun _ => provisionPasses_volumes) fun existing => ?_
      cases hmissing : request.missingVolumes existing mayExtend with
      | error err => exact Sends.throw (orderly_excused (.inl (kind_missingAmong hmissing)))
      | ok missing => exact orderly_updating definition missing

lemma orderly_finishing (group : ResourceGroup) (missing : List Volume) :
    Sends ((script.controller address).finishing request group missing)
      (Orderly ((script.controller address).ProvisionPasses request) (EndsProvision request)) := by
  refine Sends.orderly_bind (orderly_defineVolumes missing) fun _ => ?_
  refine Sends.orderly_bind orderly_placed fun found => ?_
  refine Sends.orderly_bind (orderly_read? fun _ => provisionPasses_definition)
    fun definition? => ?_
  cases definition? with
  | none => exact Sends.throw (orderly_excused (.inr rfl))
  | some definition => exact Sends.pure orderly_nil

lemma orderly_ensureResource (mayExtend : Bool) :
    Sends ((script.controller address).ensureResource request mayExtend)
      (Orderly ((script.controller address).ProvisionPasses request) (EndsProvision request)) := by
  have hgroup : Sends ((script.controller address).group? request.resourceGroup)
      fun trace result => ∃ reply,
        trace = [⟨(script.controller address).reading (groupPath request.resourceGroup), reply⟩]
          ∧ ((∃ group, result = .ok (some group)) ↔ ∃ group, Shows decodeGroup reply group) :=
    sends_read? (fun reply group h => ⟨reply, rfl, iff_of_true ⟨group, rfl⟩ ⟨group, h⟩⟩)
      (fun reply h => ⟨reply, rfl, iff_of_false nofun h.not_shows⟩)
      fun reply err h => ⟨reply, rfl, iff_of_false nofun fun hshows =>
        h (tells_iff.2 (.inr hshows))⟩
  refine Sends.bind hgroup ?_ ?_
  · rintro trace err ⟨reply, rfl, hshows⟩
    exact orderly_failed fun h => nomatch hshows.2 (provisionPasses_group.1 h)
  rintro trace (_ | group) ⟨reply, rfl, hshows⟩
  · exact Sends.throw (orderly_failed fun h => nomatch hshows.2 (provisionPasses_group.1 h))
  have hfirst : Orderly ((script.controller address).ProvisionPasses request)
      (EndsProvision request)
      [⟨(script.controller address).reading (groupPath request.resourceGroup), reply⟩]
      (.ok group : Except Error ResourceGroup) :=
    orderly_passed (provisionPasses_group.2 (hshows.1 ⟨group, rfl⟩))
  have hrest : Sends (do
      let missing ← (script.controller address).prepare request mayExtend
      (script.controller address).finishing request group missing)
      (Orderly ((script.controller address).ProvisionPasses request) (EndsProvision request)) :=
    Sends.orderly_bind (orderly_prepare mayExtend) (orderly_finishing group)
  exact hrest.imp fun _ _ h => hfirst.append h

/-! ## Conflicts -/

/-- An action that ends in a conflict has written nothing. -/
def ConflictsUnwritten (trace : List Exchange) (result : Except Error α) : Prop :=
  ∀ err, result = .error err → err.kind = .conflict → written trace = []

lemma conflictsUnwritten_bind {a : Action (List Exchange) α} {f : α → Action (List Exchange) β}
    (h : Sends a fun trace _ => OnlyReads trace) (hf : ∀ x, Sends (f x) ConflictsUnwritten) :
    Sends (a >>= f) ConflictsUnwritten := by
  refine h.bind (fun trace err hreads _ _ _ => written_of_onlyReads hreads) fun trace x hreads => ?_
  refine (hf x).imp fun rest result hrest err herr hkind => ?_
  rw [written_append, written_of_onlyReads hreads, hrest err herr hkind]
  rfl

/-- What turns nothing down ends in no conflict. -/
lemma noConflict_of_accepting {a : Action (List Exchange) α}
    {T : List Exchange → Except Error α → Prop} (h : Sends a T) (haccepting : Accepting a) :
    Sends a fun _ result => ∀ err, result = .error err → err.kind ≠ .conflict := fun log => by
  obtain ⟨trace, htrace, -⟩ := h log
  exact ⟨trace, htrace, fun err herr hkind =>
    haccepting log err (a log).2 (Prod.ext herr rfl) (.inr hkind)⟩

lemma conflictsUnwritten_of_noConflict {a : Action (List Exchange) α}
    (h : Sends a fun _ result => ∀ err, result = .error err → err.kind ≠ .conflict) :
    Sends a ConflictsUnwritten :=
  h.imp fun _ _ hkind err herr hconflict => absurd hconflict (hkind err herr)

lemma conflictsUnwritten_prepare (mayExtend : Bool) :
    Sends ((script.controller address).prepare request mayExtend) ConflictsUnwritten := by
  refine conflictsUnwritten_bind (sends_onlyReads fun _ h => keeps_read? h _ _)
    fun definition? => ?_
  cases definition? with
  | none =>
      exact conflictsUnwritten_of_noConflict (noConflict_of_accepting
        (inTurn_return inTurn_defining request.volumes)
        (((accepting_send _ _ _ _).inPhase _).bind fun _ => accepting_pure _))
  | some definition =>
      refine conflictsUnwritten_bind (sends_onlyReads fun _ h => keeps_read h _ _)
        fun existing => ?_
      refine conflictsUnwritten_bind (Sends.ofExcept nofun) fun missing => ?_
      exact conflictsUnwritten_of_noConflict (noConflict_of_accepting
        (orderly_updating definition missing) (accepting_updating _ _ _ _))

lemma conflictsUnwritten_ensureResource (mayExtend : Bool) :
    Sends ((script.controller address).ensureResource request mayExtend) ConflictsUnwritten := by
  refine conflictsUnwritten_bind (sends_onlyReads fun _ h => keeps_read? h _ _) fun group? => ?_
  cases group? with
  | none => exact Sends.throw fun err herr hkind => by cases herr; cases hkind
  | some group =>
      have hfinished : ∀ missing, Sends
          ((script.controller address).finishing request group missing)
          fun _ result => ∀ err, result = .error err → err.kind ≠ .conflict := fun missing =>
        noConflict_of_accepting (orderly_finishing group missing) (accepting_finishing _ _ _ _)
      refine Sends.bind (conflictsUnwritten_prepare mayExtend) ?_ ?_
      · rintro trace err h _ ⟨⟩
        exact h err rfl
      · exact fun trace missing _ => (hfinished missing).imp fun rest result h err herr hkind =>
          absurd hkind (h err herr)

/-- **A resource is provisioned as planned**, whatever the controller answers: what is written is a
part of the plan from its first request on, all of it if the action succeeds and nothing if it ends
in a conflict.  The first request that is not answered as it must be is the last one. -/
theorem provisions_as_planned (script : Script) (address : String) (request : ResourceRequest)
    (mayExtend : Bool) : Sends ((script.controller address).ensureResource request mayExtend)
      fun trace result => Writes ((script.controller address).planned request trace) trace result
        ∧ Orderly ((script.controller address).ProvisionPasses request) (EndsProvision request)
          trace result
        ∧ ConflictsUnwritten trace result :=
  (writes_ensureResource mayExtend).and
    ((orderly_ensureResource mayExtend).and (conflictsUnwritten_ensureResource mayExtend))

end Controller

end FailoverStorage

import FailoverStorage.Controller.Backend
import FailoverStorage.Proofs.Gateway.Keeping

/-!
# The calls of a controller

Everything that a gateway does to a controller it does by requests, one for each call.  What a call
makes of the answer is a function of the answer alone (`Controller.call_apply`,
`Controller.read?_apply`).

A predicate on the state of the controller that every `GET` keeps is kept by looking something up
(`Controller.readsKeep_backend`), and one that every request keeps by creating an endpoint as well
(`Controller.preserves_backend`).
-/

namespace FailoverStorage

open FailoverStorage.Action

namespace Controller

variable {σ α : Type} {c : Controller σ} {P : σ → Prop}

/-! ## Requests -/

/-- What the client makes of the answer to a request. -/
def outcome (method path : String) : Option Reply → Except Error String
  | none => .error .transport
  | some reply =>
    if reply.status = 404 then .error (.notFound "linstor-object" path)
    else if 200 ≤ reply.status ∧ reply.status < 300 then .ok reply.body
    else .error (.refused method path reply.status (report reply.body))

/-- **A call is one request**, and its outcome depends on the answer alone. -/
lemma call_apply (c : Controller σ) (method path : String) (body : Option Json) (s : σ) :
    c.call method path body s
      = (outcome method path (c.transport { method, url := c.address ++ path, body } s).1,
        (c.transport { method, url := c.address ++ path, body } s).2) := by
  have hlift : (liftM (c.transport { method, url := c.address ++ path, body }) :
      Action σ (Option Reply)) s
        = (.ok (c.transport { method, url := c.address ++ path, body } s).1,
          (c.transport { method, url := c.address ++ path, body } s).2) := rfl
  rw [call]
  refine (bind_apply_ok hlift _).trans ?_
  cases (c.transport { method, url := c.address ++ path, body } s).1 with
  | none => rfl
  | some reply =>
      simp only [outcome]
      split
      · rfl
      split <;> rfl

/-- The request that reads what is at a path. -/
def reading (c : Controller σ) (path : String) : Call :=
  { method := "GET", url := c.address ++ path, body := none }

/-- **An answer tells what is at a path**, or that nothing is. -/
def Tells (decode : Json.Decoder α) (reply : Option Reply) : Prop :=
  ∃ r, reply = some r
    ∧ (r.status = 404 ∨ 200 ≤ r.status ∧ r.status < 300 ∧ ∃ a, decodeWhole decode r.body = some a)

/-- What is read from an answer. -/
def told (decode : Json.Decoder α) (path : String) (reply : Option Reply) :
    Except Error (Option α) :=
  match outcome "GET" path reply with
  | .error err => if err.isNotFound then .ok none else .error err
  | .ok body =>
    match decodeWhole decode body with
    | some a => .ok (some a)
    | none => .error .transport

lemma read_apply (c : Controller σ) (path : String) (decode : Json.Decoder α) (s : σ) :
    c.read path decode s
      = (match outcome "GET" path (c.transport (c.reading path) s).1 with
        | .error err => .error err
        | .ok body =>
          match decodeWhole decode body with
          | some a => .ok a
          | none => .error .transport, (c.transport (c.reading path) s).2) := by
  rw [read, bind_apply, call_apply]
  simp only [reading]
  cases outcome "GET" path (c.transport { method := "GET", url := c.address ++ path } s).1 with
  | error err => rfl
  | ok body =>
      simp only
      cases decodeWhole decode body <;> rfl

/-- **Reading what may not exist is one request.** -/
lemma read?_apply (c : Controller σ) (path : String) (decode : Json.Decoder α) (s : σ) :
    c.read? path decode s
      = (told decode path (c.transport (c.reading path) s).1,
        (c.transport (c.reading path) s).2) := by
  rw [read?, tryCatch_apply, map_apply, read_apply, told]
  cases outcome "GET" path (c.transport (c.reading path) s).1 with
  | error err =>
      simp only [Except.map_error]
      split <;> rfl
  | ok body =>
      simp only
      cases decodeWhole decode body <;> rfl

/-- Reading fails exactly if an answer tells nothing. -/
lemma exists_told_iff {decode : Json.Decoder α} {path : String} {reply : Option Reply} :
    (∃ a, told decode path reply = .ok a) ↔ Tells decode reply := by
  rw [told, Tells]
  cases reply with
  | none => simp [outcome, Error.isNotFound, Error.kind]
  | some r =>
      by_cases hnone : r.status = 404
      · simp [outcome, hnone, Error.isNotFound, Error.kind]
      · by_cases hok : 200 ≤ r.status ∧ r.status < 300
        · cases hdecode : decodeWhole decode r.body <;>
            simp [outcome, hnone, hok, hdecode]
        · have hrefused : outcome "GET" path (some r)
              = .error (.refused "GET" path r.status (report r.body)) := by
            rw [outcome.eq_def]
            simp only [if_neg hnone, if_neg hok]
          rw [hrefused]
          have hstatus : ¬ (r.status = 404 ∨ 200 ≤ r.status ∧ r.status < 300
              ∧ ∃ a, decodeWhole decode r.body = some a) :=
            fun h => h.elim hnone fun h => hok ⟨h.1, h.2.1⟩
          constructor
          · rintro ⟨a, ha⟩
            cases ha
          · rintro ⟨r', heq, h⟩
            cases heq
            exact absurd h hstatus

/-! ## Reading -/

/-- **Every request that reads** keeps what a predicate says. -/
def ReadsKeep (c : Controller σ) (P : σ → Prop) : Prop :=
  ∀ path s, P s → P (c.transport (c.reading path) s).2

section

variable (h : c.ReadsKeep P)

include h

lemma keeps_read (path : String) (decode : Json.Decoder α) : Keeps P (c.read path decode) :=
  Triple.of_state fun s hs => by
    rw [read_apply]
    exact h path s hs

lemma keeps_read? (path : String) (decode : Json.Decoder α) : Keeps P (c.read? path decode) :=
  Triple.of_state fun s hs => by
    rw [read?_apply]
    exact h path s hs

lemma keeps_deployed (name : String) : Keeps P (c.deployed name) := by
  refine Triple.bind (keeps_read? h _ _) fun definition? => ?_
  cases definition? with
  | none => exact (readOnly_pure _).keeps P
  | some definition =>
      refine Triple.bind (keeps_read? h _ _) fun group => ?_
      refine Triple.bind (keeps_read h _ _) fun volumeDefinitions => ?_
      exact Triple.bind (keeps_read h _ _) fun _ => (readOnly_pure _).keeps P

lemma keeps_entries : Keeps P c.entries :=
  Triple.bind (keeps_read? h _ _) fun _ => (readOnly_pure _).keeps P

lemma keeps_anyEnables (path : String) (names : List String) :
    Keeps P (c.anyEnables path names) := by
  induction names with
  | nil => exact (readOnly_pure _).keeps P
  | cons name rest ih =>
      refine Triple.bind (keeps_read? h _ _) fun definition? => ?_
      simp only
      split
      · exact (readOnly_pure _).keeps P
      · exact ih

lemma keeps_stored (path : String) (config : PromoterConfig) : Keeps P (c.stored path config) :=
  Triple.bind (keeps_anyEnables h _ _) fun _ => (readOnly_pure _).keeps P

lemma keeps_readable (entries : List (String × String)) : Keeps P (c.readable entries) := by
  induction entries with
  | nil => exact (readOnly_pure _).keeps P
  | cons entry rest ih =>
      rw [readable]
      cases PromoterConfig.ofToml entry.2 with
      | error err => exact ih
      | ok config =>
          have hstored : Keeps P (some <$> c.stored entry.1 config) :=
            Triple.map (keeps_stored h _ config)
          refine Triple.bind (hstored.getD fun _ hs => hs) fun first => ?_
          exact Triple.bind ih fun _ => (readOnly_pure _).keeps P

lemma keeps_findConfig (id : String) : Keeps P (c.findConfig id) := by
  refine Triple.bind (keeps_entries h) fun entries => ?_
  cases entries.find? (PromoterConfig.pathOf id) with
  | none => exact (readOnly_pure _).keeps P
  | some content =>
      refine Triple.bind ((readOnly_ofExcept _).keeps P) fun config => ?_
      exact Triple.map (keeps_stored h _ config)

lemma keeps_listConfigs : Keeps P c.listConfigs :=
  Triple.bind (keeps_entries h) fun _ => keeps_readable h _

/-- **Looking something up** is done by requests that read. -/
lemma readsKeep_backend : c.backend.ReadsKeep P where
  deployed := keeps_deployed h
  find := keeps_findConfig h
  list := keeps_listConfigs h

end

/-! ## Changing -/

/-- **Every request** keeps what a predicate says. -/
def CallsKeep (c : Controller σ) (P : σ → Prop) : Prop :=
  ∀ call s, P s → P (c.transport call s).2

section

variable (h : c.CallsKeep P)

include h

lemma CallsKeep.readsKeep : c.ReadsKeep P := fun path => h (c.reading path)

lemma keeps_send (method path : String) (body : Option Json) :
    Keeps P (c.send method path body) := by
  refine Triple.bind (Triple.of_state fun s hs => ?_) fun _ => (readOnly_pure _).keeps P
  rw [call_apply]
  exact h _ s hs

lemma keeps_defineVolumes (request : ResourceRequest) (volumes : List Volume) :
    Keeps P (c.defineVolumes request volumes) := by
  induction volumes with
  | nil => exact (readOnly_pure _).keeps P
  | cons v rest ih =>
      exact Triple.bind (Triple.inPhase _ (keeps_send h _ _ _)) fun _ => ih

lemma keeps_prepare (request : ResourceRequest) (mayExtend : Bool) :
    Keeps P (c.prepare request mayExtend) := by
  refine Triple.bind (keeps_read? h.readsKeep _ _) fun definition? => ?_
  cases definition? with
  | none =>
      exact Triple.bind (Triple.inPhase _ (keeps_send h _ _ _)) fun _ => (readOnly_pure _).keeps P
  | some definition =>
      refine Triple.bind (keeps_read h.readsKeep _ _) fun existing => ?_
      refine Triple.bind ((readOnly_ofExcept _).keeps P) fun missing => ?_
      simp only
      split
      · exact Triple.bind (Triple.inPhase _ (keeps_send h _ _ _)) fun _ =>
          (readOnly_pure _).keeps P
      · exact (readOnly_pure _).keeps P

lemma keeps_placed (name : String) : Keeps P (c.placed name) := by
  refine Triple.bind (keeps_read h.readsKeep _ _) fun found => ?_
  split
  · exact Triple.bind (Triple.inPhase _ (keeps_send h _ _ _)) fun _ => keeps_read h.readsKeep _ _
  · exact (readOnly_pure _).keeps P

lemma keeps_ensureResource (request : ResourceRequest) (mayExtend : Bool) :
    Keeps P (c.ensureResource request mayExtend) := by
  refine Triple.bind (keeps_read? h.readsKeep _ _) fun group? => ?_
  cases group? with
  | none => exact (readOnly_throw _).keeps P
  | some group =>
      refine Triple.bind (keeps_prepare h request mayExtend) fun missing => ?_
      refine Triple.bind (keeps_defineVolumes h request missing) fun _ => ?_
      refine Triple.bind (keeps_placed h _) fun placements => ?_
      refine Triple.bind (keeps_read? h.readsKeep _ _) fun definition? => ?_
      cases definition? with
      | some definition => exact (readOnly_pure _).keeps P
      | none => exact (readOnly_throw _).keeps P

lemma keeps_enableOn (path : String) (enabled : Bool) (names : List String) :
    Keeps P (c.enableOn path enabled names) := by
  induction names with
  | nil => exact (readOnly_pure _).keeps P
  | cons name rest ih =>
      exact Triple.bind (Triple.inPhase _ (keeps_send h _ _ _)) fun _ => ih

/-- **Creating an endpoint** is done by requests. -/
lemma preserves_backend : c.backend.Preserves P where
  toReadsKeep := readsKeep_backend h.readsKeep
  placements := fun _ => keeps_read h.readsKeep _ _
  ensureResource := keeps_ensureResource h
  ensureConfig := fun _ => keeps_send h _ _ _
  attach := fun _ => Triple.bind (keeps_send h _ _ _) fun _ => keeps_enableOn h _ _ _

end

end Controller

end FailoverStorage

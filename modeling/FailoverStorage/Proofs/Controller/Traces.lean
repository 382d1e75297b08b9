import FailoverStorage.Proofs.Controller.Rivalry

/-!
# Traces

An action on a controller that follows a script does nothing to the log but append to it.  What it
appends is its trace, and `Controller.Sends a T` says that, whatever the answers, `T` holds of the
trace and the result of `a`.  There is one rule for each way in which actions are put together, and
one for each kind of request.

Two predicates on traces are what is then proved of the actions of a gateway:

* `Controller.OnlyAfter kind needed`: wherever a trace is cut, a request of a kind comes next only
  if what is needed for it was exchanged before.
* `Controller.Orderly passes excuse`: a trace ends with the first request that is not answered as it
  must be, and the action succeeds only if there is none.
-/

namespace FailoverStorage

open FailoverStorage.Action

namespace Controller

variable {α β : Type}

/-! ## Paths and requests -/

/-- The path of the placements of a resource. -/
def placementsPath (name : String) : String :=
  "/v1/view/resources?resources=" ++ Http.percentEncode name

/-- The request that sets some properties of an object and removes others. -/
def changing {σ : Type} (c : Controller σ) (path : String) (set : SortedMap String String)
    (remove : List String) : Call :=
  { method := "PUT", url := c.address ++ path, body := some (changesJson set remove) }

/-- Texts differ if neither begins as the other. -/
lemma append_ne_append {a b : String} (h : ¬ (a.toList <+: b.toList ∨ b.toList <+: a.toList))
    (x y : String) : a ++ x ≠ b ++ y := by
  intro heq
  refine h (List.prefix_or_prefix_of_prefix (List.prefix_append a.toList x.toList) ?_)
  rw [← String.toList_append, heq, String.toList_append]
  exact List.prefix_append _ _

lemma definitionPath_ne_entriesPath (name : String) : definitionPath name ≠ entriesPath := by
  rw [← String.append_empty (s := entriesPath)]
  exact append_ne_append (by decide +kernel) _ _

lemma placementsPath_ne_entriesPath (name : String) : placementsPath name ≠ entriesPath := by
  rw [← String.append_empty (s := entriesPath)]
  exact append_ne_append (by decide +kernel) _ _

lemma definitionPath_ne_placementsPath (name other : String) :
    definitionPath name ≠ placementsPath other :=
  append_ne_append (by decide +kernel) _ _

/-! ## Answers -/

/-- An answer says that a request was carried out. -/
def Accepted (reply : Option Reply) : Prop :=
  ∃ r, reply = some r ∧ 200 ≤ r.status ∧ r.status < 300

/-- An answer says that there is no such object. -/
def Absent (reply : Option Reply) : Prop := ∃ r, reply = some r ∧ r.status = 404

/-- **An answer shows an object.** -/
def Shows (decode : Json.Decoder α) (reply : Option Reply) (x : α) : Prop :=
  ∃ r, reply = some r ∧ 200 ≤ r.status ∧ r.status < 300 ∧ decodeWhole decode r.body = some x

lemma Absent.not_shows {decode : Json.Decoder α} {reply : Option Reply} (h : Absent reply) :
    ¬ ∃ x, Shows decode reply x := by
  rintro ⟨x, r, rfl, hlow, hhigh, -⟩
  obtain ⟨_, heq, habsent⟩ := h
  cases heq
  omega

/-- What an answer tells is that there is no object, or an object. -/
lemma tells_iff {decode : Json.Decoder α} {reply : Option Reply} :
    Tells decode reply ↔ Absent reply ∨ ∃ x, Shows decode reply x := by
  constructor
  · rintro ⟨r, hr, h | ⟨hlow, hhigh, x, hx⟩⟩
    · exact .inl ⟨r, hr, h⟩
    · exact .inr ⟨x, r, hr, hlow, hhigh, hx⟩
  · rintro (⟨r, hr, h⟩ | ⟨x, r, hr, hlow, hhigh, hx⟩)
    · exact ⟨r, hr, .inl h⟩
    · exact ⟨r, hr, .inr ⟨hlow, hhigh, x, hx⟩⟩

lemma outcome_of_accepted {method path : String} {r : Reply} (hlow : 200 ≤ r.status)
    (hhigh : r.status < 300) : outcome method path (some r) = .ok r.body := by
  rw [outcome.eq_def]
  simp only [if_neg (show ¬ r.status = 404 by omega), if_pos (And.intro hlow hhigh)]

/-- **The outcome of a request** is the body of the answer if it was carried out, and else an error
that shows whether the object was absent. -/
lemma outcome_cases (method path : String) (reply : Option Reply) :
    (∃ r, reply = some r ∧ 200 ≤ r.status ∧ r.status < 300
        ∧ outcome method path reply = .ok r.body)
      ∨ ∃ err, outcome method path reply = .error err ∧ ¬ Accepted reply
        ∧ (err.isNotFound = true ↔ Absent reply) := by
  by_cases haccepted : Accepted reply
  · obtain ⟨r, rfl, hlow, hhigh⟩ := haccepted
    exact .inl ⟨r, rfl, hlow, hhigh, outcome_of_accepted hlow hhigh⟩
  refine .inr ?_
  cases reply with
  | none => exact ⟨_, rfl, haccepted, iff_of_false (by decide) fun ⟨_, h, _⟩ => nomatch h⟩
  | some r =>
      have hrefused : ¬ (200 ≤ r.status ∧ r.status < 300) := fun h => haccepted ⟨r, rfl, h.1, h.2⟩
      rw [outcome.eq_def]
      simp only [if_neg hrefused]
      split
      next habsent => exact ⟨_, rfl, haccepted, iff_of_true rfl ⟨r, rfl, habsent⟩⟩
      next hpresent =>
        refine ⟨_, rfl, haccepted, iff_of_false (by rintro ⟨⟩) ?_⟩
        rintro ⟨_, heq, habsent⟩
        cases heq
        exact hpresent habsent

lemma told_of_shows {decode : Json.Decoder α} {path : String} {reply : Option Reply} {x : α}
    (h : Shows decode reply x) : told decode path reply = .ok (some x) := by
  obtain ⟨r, rfl, hlow, hhigh, hx⟩ := h
  simp only [told, outcome_of_accepted hlow hhigh, hx]

lemma told_of_absent {decode : Json.Decoder α} {path : String} {reply : Option Reply}
    (h : Absent reply) : told decode path reply = .ok none := by
  obtain ⟨r, rfl, habsent⟩ := h
  rw [told, outcome.eq_def]
  simp only [if_pos habsent]
  rfl

lemma read_of_shows {σ : Type} {c : Controller σ} {s : σ} {decode : Json.Decoder α} {path : String}
    {x : α} (h : Shows decode (c.transport (c.reading path) s).1 x) :
    c.read path decode s = (.ok x, (c.transport (c.reading path) s).2) := by
  obtain ⟨r, hr, hlow, hhigh, hx⟩ := h
  rw [read_apply, hr, outcome_of_accepted hlow hhigh]
  simp only [hx]

lemma read_of_absent {σ : Type} {c : Controller σ} {s : σ} {decode : Json.Decoder α}
    {path : String} (h : Absent (c.transport (c.reading path) s).1) :
    c.read path decode s
      = (.error (.notFound "linstor-object" path), (c.transport (c.reading path) s).2) := by
  obtain ⟨r, hr, habsent⟩ := h
  rw [read_apply, hr, outcome.eq_def]
  simp only [if_pos habsent]

/-! ## What an action sends -/

/-- **An action appends a trace to the log**, and `T` holds of the trace and the result. -/
def Sends (a : Action (List Exchange) α) (T : List Exchange → Except Error α → Prop) : Prop :=
  ∀ log, ∃ trace, (a log).2 = log ++ trace ∧ T trace (a log).1

namespace Sends

variable {a : Action (List Exchange) α} {T T' U : List Exchange → Except Error α → Prop}
  {V : List Exchange → Except Error β → Prop}

lemma imp (h : Sends a T) (hU : ∀ trace result, T trace result → U trace result) : Sends a U :=
  fun log => by
    obtain ⟨trace, htrace, hT⟩ := h log
    exact ⟨trace, htrace, hU _ _ hT⟩

/-- There is only one trace. -/
lemma and (h : Sends a T) (h' : Sends a T') :
    Sends a fun trace result => T trace result ∧ T' trace result := by
  intro log
  obtain ⟨trace, htrace, hT⟩ := h log
  obtain ⟨trace', htrace', hT'⟩ := h' log
  obtain rfl : trace = trace' := List.append_cancel_left (htrace.symm.trans htrace')
  exact ⟨trace, htrace, hT, hT'⟩

lemma pure {x : α} (h : T [] (.ok x)) : Sends (Pure.pure x) T :=
  fun log => ⟨[], (List.append_nil log).symm, h⟩

lemma throw {err : Error} (h : T [] (.error err)) :
    Sends (MonadExcept.throw err : Action (List Exchange) α) T :=
  fun log => ⟨[], (List.append_nil log).symm, h⟩

lemma ofExcept {result : Except Error α} (h : T [] result) : Sends (Action.ofExcept result) T :=
  fun log => ⟨[], (List.append_nil log).symm, h⟩

lemma bind {f : α → Action (List Exchange) β} (h : Sends a T)
    (herror : ∀ trace err, T trace (.error err) → V trace (.error err))
    (hok : ∀ trace x, T trace (.ok x) →
      Sends (f x) fun rest result => V (trace ++ rest) result) : Sends (a >>= f) V := by
  intro log
  obtain ⟨trace, htrace, hT⟩ := h log
  rcases hrun : a log with ⟨err | x, t⟩
  · rw [hrun] at htrace hT
    rw [bind_apply_error hrun]
    exact ⟨trace, htrace, herror trace err hT⟩
  · rw [hrun] at htrace hT
    obtain rfl : t = log ++ trace := htrace
    rw [bind_apply_ok hrun]
    obtain ⟨rest, hrest, hV⟩ := hok trace x hT (log ++ trace)
    exact ⟨trace ++ rest, by rw [hrest, List.append_assoc], hV⟩

lemma inPhase {phase : String} (h : Sends a T)
    (hU : ∀ trace result, T trace result → U trace (FailoverStorage.inPhase phase result)) :
    Sends (a.inPhase phase) U := fun log => by
  obtain ⟨trace, htrace, hT⟩ := h log
  exact ⟨trace, htrace, hU trace _ hT⟩

lemma orAbsent {a : Action (List Exchange) Unit}
    {T U : List Exchange → Except Error Unit → Prop} (h : Sends a T)
    (hok : ∀ trace, T trace (.ok ()) → U trace (.ok ()))
    (herror : ∀ trace err, T trace (.error err) →
      U trace (if err.isNotFound then .ok () else .error err)) : Sends a.orAbsent U := by
  intro log
  obtain ⟨trace, htrace, hT⟩ := h log
  refine ⟨trace, (state_orAbsent a log).trans htrace, ?_⟩
  rw [Action.orAbsent]
  rcases hrun : a log with ⟨err | _, t⟩
  · rw [hrun] at hT
    exact herror trace err hT
  · rw [hrun] at hT
    exact hok trace hT

end Sends

/-! ## Requests -/

section

variable {script : Script} {address : String} {path : String}
  {T : List Exchange → Except Error α → Prop}

lemma sends_call {method : String} {body : Option Json}
    {T : List Exchange → Except Error String → Prop}
    (h : ∀ reply, T [{ call := { method, url := address ++ path, body }, reply }]
      (outcome method path reply)) :
    Sends ((script.controller address).call method path body) T := fun log => by
  rw [call_apply]
  exact ⟨_, rfl, h _⟩

/-- **A request whose answer does not matter** is carried out or fails. -/
lemma sends_send {method : String} {body : Option Json}
    {T : List Exchange → Except Error Unit → Prop}
    (hok : ∀ reply, Accepted reply →
      T [{ call := { method, url := address ++ path, body }, reply }] (.ok ()))
    (herror : ∀ reply err, ¬ Accepted reply → (err.isNotFound = true ↔ Absent reply) →
      T [{ call := { method, url := address ++ path, body }, reply }] (.error err)) :
    Sends ((script.controller address).send method path body) T := by
  refine (sends_call (T := fun trace result => ∃ reply,
    trace = [{ call := { method, url := address ++ path, body }, reply }]
      ∧ result = outcome method path reply) fun reply => ⟨reply, rfl, rfl⟩).bind ?_ ?_
  · rintro trace err ⟨reply, rfl, herr⟩
    rcases outcome_cases method path reply with ⟨r, -, -, -, hr⟩ | ⟨err', herr', hnot, habsent⟩
    · cases herr.trans hr
    · cases herr.trans herr'
      exact herror reply err hnot habsent
  · rintro trace body' ⟨reply, rfl, hok'⟩
    rcases outcome_cases method path reply with ⟨r, hr, hlow, hhigh, -⟩ | ⟨err', herr', -⟩
    · exact Sends.pure (hok reply ⟨r, hr, hlow, hhigh⟩)
    · cases hok'.trans herr'

/-- **A request whose object need not exist** is carried out or finds that it is absent, or
fails. -/
lemma sends_orAbsent {method : String} {body : Option Json}
    {T : List Exchange → Except Error Unit → Prop}
    (hok : ∀ reply, Accepted reply ∨ Absent reply →
      T [{ call := { method, url := address ++ path, body }, reply }] (.ok ()))
    (herror : ∀ reply err, ¬ (Accepted reply ∨ Absent reply) →
      T [{ call := { method, url := address ++ path, body }, reply }] (.error err)) :
    Sends ((script.controller address).send method path body).orAbsent T := by
  refine Sends.orAbsent (T := fun trace result => ∃ reply,
    trace = [{ call := { method, url := address ++ path, body }, reply }]
      ∧ (result = .ok () → Accepted reply)
      ∧ ∀ err, result = .error err → ¬ Accepted reply ∧ (err.isNotFound = true ↔ Absent reply))
    (sends_send (fun reply h => ⟨reply, rfl, fun _ => h, nofun⟩)
      fun reply err h habsent => ⟨reply, rfl, nofun, fun _ heq => by cases heq; exact ⟨h, habsent⟩⟩)
    ?_ ?_
  · rintro trace ⟨reply, rfl, haccepted, -⟩
    exact hok reply (.inl (haccepted rfl))
  · rintro trace err ⟨reply, rfl, -, hfailed⟩
    obtain ⟨hnot, habsent⟩ := hfailed err rfl
    split
    next h => exact hok reply (.inr (habsent.1 h))
    next h => exact herror reply err (not_or.2 ⟨hnot, mt habsent.2 h⟩)

/-- **Reading an object** shows it or fails. -/
lemma sends_read {decode : Json.Decoder α}
    (hok : ∀ reply x, Shows decode reply x →
      T [{ call := (script.controller address).reading path, reply }] (.ok x))
    (herror : ∀ reply err, (¬ ∃ x, Shows decode reply x) →
      T [{ call := (script.controller address).reading path, reply }] (.error err)) :
    Sends ((script.controller address).read path decode) T := by
  refine (sends_call (T := fun trace result => ∃ reply,
    trace = [{ call := (script.controller address).reading path, reply }]
      ∧ result = outcome "GET" path reply) fun reply => ⟨reply, rfl, rfl⟩).bind ?_ ?_
  · rintro trace err ⟨reply, rfl, herr⟩
    rcases outcome_cases "GET" path reply with ⟨r, -, -, -, hr⟩ | ⟨err', -, hnot, -⟩
    · cases herr.trans hr
    · exact herror reply err fun ⟨x, r, hr, hlow, hhigh, _⟩ => hnot ⟨r, hr, hlow, hhigh⟩
  · rintro trace body ⟨reply, rfl, hok'⟩
    rcases outcome_cases "GET" path reply with ⟨r, hr, hlow, hhigh, hbody⟩ | ⟨err', herr', -⟩
    · cases hok'.trans hbody
      cases hdecode : decodeWhole decode r.body with
      | some x => exact Sends.pure (hok reply x ⟨r, hr, hlow, hhigh, hdecode⟩)
      | none =>
          refine Sends.throw (herror reply _ ?_)
          rintro ⟨x, r', hr', -, -, hx⟩
          cases hr.symm.trans hr'
          cases hdecode.symm.trans hx
    · cases hok'.trans herr'

/-- **Reading what may not exist** shows it, finds that it is absent, or fails. -/
lemma sends_read? {decode : Json.Decoder α}
    {T : List Exchange → Except Error (Option α) → Prop}
    (hsome : ∀ reply x, Shows decode reply x →
      T [{ call := (script.controller address).reading path, reply }] (.ok (some x)))
    (hnone : ∀ reply, Absent reply →
      T [{ call := (script.controller address).reading path, reply }] (.ok none))
    (herror : ∀ reply err, ¬ Tells decode reply →
      T [{ call := (script.controller address).reading path, reply }] (.error err)) :
    Sends ((script.controller address).read? path decode) T := by
  intro log
  rw [read?_apply]
  obtain ⟨reply, hreply⟩ : ∃ reply, script log ((script.controller address).reading path) = reply :=
    ⟨_, rfl⟩
  refine ⟨[{ call := (script.controller address).reading path, reply }], by rw [← hreply]; rfl, ?_⟩
  show T _ (told decode path (script log ((script.controller address).reading path)))
  rw [hreply]
  by_cases htells : Tells decode reply
  · rcases tells_iff.1 htells with habsent | ⟨x, hx⟩
    · rw [told_of_absent habsent]
      exact hnone reply habsent
    · rw [told_of_shows hx]
      exact hsome reply x hx
  · cases htold : told decode path reply with
    | ok x => exact absurd (exists_told_iff.1 ⟨x, htold⟩) htells
    | error err => exact herror reply err htells

/-- Reading an object is one request. -/
lemma read_cases {decode : Json.Decoder α} :
    Sends ((script.controller address).read path decode) fun trace result => ∃ reply,
      trace = [{ call := (script.controller address).reading path, reply }]
        ∧ ∀ x, result = .ok x → Shows decode reply x :=
  sends_read (fun reply _ hx => ⟨reply, rfl, fun _ h => by cases h; exact hx⟩)
    fun reply _ _ => ⟨reply, rfl, nofun⟩

lemma read?_cases {decode : Json.Decoder α} :
    Sends ((script.controller address).read? path decode) fun trace result => ∃ reply,
      trace = [{ call := (script.controller address).reading path, reply }]
        ∧ (result = .ok none → Absent reply) ∧ ∀ x, result = .ok (some x) → Shows decode reply x :=
  sends_read? (fun reply _ hx => ⟨reply, rfl, nofun, fun _ h => by cases h; exact hx⟩)
    (fun reply habsent => ⟨reply, rfl, fun _ => habsent, nofun⟩)
    fun reply _ _ => ⟨reply, rfl, nofun, nofun⟩

/-- Looking at the placements of a resource is one request. -/
lemma placements_cases {resource : String} :
    Sends ((script.controller address).placements resource) fun trace result => ∃ reply,
      trace = [{ call := (script.controller address).reading (placementsPath resource), reply }]
        ∧ ∀ found, result = .ok found → Shows (Json.Decode.list decodePlacement) reply found :=
  read_cases

lemma OnlyReads.append {trace rest : List Exchange} (h : OnlyReads trace) (hrest : OnlyReads rest) :
    OnlyReads (trace ++ rest) := fun e he => by
  rcases List.mem_append.1 he with he | he
  · exact h e he
  · exact hrest e he

lemma onlyReads_reading {σ : Type} {c : Controller σ} {reply : Option Reply} :
    OnlyReads [{ call := c.reading path, reply }] := fun e he => by
  rw [List.mem_singleton.1 he]
  rfl

/-- What sends nothing but requests that read is seen to do so in every log. -/
lemma sends_onlyReads {a : Action (List Exchange) α}
    (h : ∀ P, (script.controller address).ReadsKeep P → Keeps P a) :
    Sends a fun trace _ => OnlyReads trace := fun log => by
  -- the part of a log after its present end
  have hkeeps := h (fun log' => ∃ trace, log' = log ++ trace ∧ OnlyReads trace) ?_
  · exact hkeeps.state ⟨[], (List.append_nil log).symm, nofun⟩
  · rintro path _ ⟨trace, rfl, htrace⟩
    exact ⟨trace ++ _, List.append_assoc log trace _, htrace.append onlyReads_reading⟩

end

/-! ## Order -/

variable {trace rest : List Exchange} {e : Exchange}

/-- **Wherever a trace is cut, a request of a kind comes next only after what is needed for it.** -/
def OnlyAfter (kind : Call → Prop) (needed : List Exchange → Prop) (trace : List Exchange) : Prop :=
  ∀ before e after, trace = before ++ e :: after → kind e.call → needed before

section

variable {kind : Call → Prop} {needed : List Exchange → Prop}

lemma onlyAfter_of_not (h : ∀ e ∈ trace, ¬ kind e.call) : OnlyAfter kind needed trace :=
  fun _ e _ htrace hkind => absurd hkind (h e (by simp [htrace]))

lemma onlyAfter_singleton (h : needed []) : OnlyAfter kind needed [e] := by
  intro before e' after htrace _
  cases before with
  | nil => exact h
  | cons _ _ => simp at htrace

/-- A trace is followed by another in order, if what came before counts for that, too. -/
lemma OnlyAfter.append (h : OnlyAfter kind needed trace)
    (hrest : OnlyAfter kind (fun before => needed (trace ++ before)) rest) :
    OnlyAfter kind needed (trace ++ rest) := by
  intro before e after htrace hkind
  rcases List.append_eq_append_iff.1 htrace with ⟨middle, rfl, hmiddle⟩ | ⟨middle, rfl, hmiddle⟩
  · exact hrest middle e after hmiddle hkind
  · cases middle with
    | nil =>
        have hneeded := hrest [] e after hmiddle.symm hkind
        rwa [List.append_nil, List.append_nil] at hneeded
    | cons first middle =>
        obtain ⟨rfl, -⟩ := List.cons.inj hmiddle
        exact h before e middle rfl hkind

end

/-- **A trace ends with the first request that is not answered as it must be.**  There is none if
the action succeeds, and one if it fails without another excuse. -/
structure Orderly (passes : Exchange → Prop) (excuse : Error → Prop) (trace : List Exchange)
    (result : Except Error α) : Prop where
  later : OnlyAfter (fun _ => True) (fun before => ∀ e ∈ before, passes e) trace
  passed : ∀ x, result = .ok x → ∀ e ∈ trace, passes e
  failed : ∀ err, result = .error err → (∃ e ∈ trace, ¬ passes e) ∨ excuse err

section

variable {passes : Exchange → Prop} {excuse : Error → Prop} {x : α} {y : β} {err : Error}

lemma orderly_nil : Orderly passes excuse [] (.ok x : Except Error α) where
  later := onlyAfter_of_not fun _ h => nomatch h
  passed := fun _ _ _ h => nomatch h
  failed := fun _ h => nomatch h

lemma orderly_excused (h : excuse err) :
    Orderly passes excuse [] (.error err : Except Error α) where
  later := onlyAfter_of_not fun _ h => nomatch h
  passed := fun _ h => nomatch h
  failed := fun _ heq => .inr (by cases heq; exact h)

lemma orderly_passed (h : passes e) : Orderly passes excuse [e] (.ok x : Except Error α) where
  later := onlyAfter_singleton fun _ h => nomatch h
  passed := fun _ _ _ he => List.mem_singleton.1 he ▸ h
  failed := fun _ h => nomatch h

lemma orderly_failed (h : ¬ passes e) :
    Orderly passes excuse [e] (.error err : Except Error α) where
  later := onlyAfter_singleton fun _ h => nomatch h
  passed := fun _ h => nomatch h
  failed := fun _ _ => .inl ⟨e, List.mem_singleton_self e, h⟩

/-- A failure is as orderly for whoever is waiting for another kind of value. -/
lemma Orderly.error (h : Orderly passes excuse trace (.error err : Except Error α)) :
    Orderly passes excuse trace (.error err : Except Error β) where
  later := h.later
  passed := fun _ h => nomatch h
  failed := fun _ heq => by
    cases heq
    exact h.failed err rfl

lemma Orderly.inPhase {result : Except Error α} (h : Orderly passes excuse trace result)
    (hexcuse : ∀ phase err, excuse err → excuse (.context phase err)) (phase : String) :
    Orderly passes excuse trace (FailoverStorage.inPhase phase result) := by
  cases result with
  | ok x => exact h
  | error err =>
      refine ⟨h.later, fun _ h => (nomatch h), fun _ heq => ?_⟩
      cases heq
      exact (h.failed err rfl).imp_right (hexcuse phase err)

/-- After a success a trace goes on in order. -/
lemma Orderly.append {result : Except Error β}
    (h : Orderly passes excuse trace (.ok x : Except Error α))
    (hrest : Orderly passes excuse rest result) : Orderly passes excuse (trace ++ rest) result where
  later := h.later.append fun before e after hsplit _ e' he' => by
    rcases List.mem_append.1 he' with he' | he'
    · exact h.passed x rfl e' he'
    · exact hrest.later before e after hsplit trivial e' he'
  passed := fun y hy e he => by
    rcases List.mem_append.1 he with he | he
    · exact h.passed x rfl e he
    · exact hrest.passed y hy e he
  failed := fun err herr => (hrest.failed err herr).imp_left fun ⟨e, he, hnot⟩ =>
    ⟨e, List.mem_append_right _ he, hnot⟩

lemma Sends.orderly_bind {a : Action (List Exchange) α} {f : α → Action (List Exchange) β}
    (h : Sends a (Orderly passes excuse)) (hf : ∀ x, Sends (f x) (Orderly passes excuse)) :
    Sends (a >>= f) (Orderly passes excuse) :=
  h.bind (fun _ _ herr => herr.error) fun _ x hx => (hf x).imp fun _ _ hrest => hx.append hrest

end

section

variable {script : Script} {address path method : String} {body : Option Json}
  {passes : Exchange → Prop} {excuse : Error → Prop}

lemma orderly_send
    (h : ∀ reply, passes { call := { method, url := address ++ path, body }, reply }
      ↔ Accepted reply) :
    Sends ((script.controller address).send method path body) (Orderly passes excuse) :=
  sends_send (fun reply haccepted => orderly_passed ((h reply).2 haccepted))
    fun reply _ hnot _ => orderly_failed (mt (h reply).1 hnot)

lemma orderly_orAbsent
    (h : ∀ reply, passes { call := { method, url := address ++ path, body }, reply }
      ↔ Accepted reply ∨ Absent reply) :
    Sends ((script.controller address).send method path body).orAbsent (Orderly passes excuse) :=
  sends_orAbsent (fun reply hdone => orderly_passed ((h reply).2 hdone))
    fun reply _ hnot => orderly_failed (mt (h reply).1 hnot)

lemma orderly_read {decode : Json.Decoder α}
    (h : ∀ reply, passes { call := (script.controller address).reading path, reply }
      ↔ ∃ x, Shows decode reply x) :
    Sends ((script.controller address).read path decode) (Orderly passes excuse) :=
  sends_read (fun reply x hx => orderly_passed ((h reply).2 ⟨x, hx⟩))
    fun reply _ hnot => orderly_failed (mt (h reply).1 hnot)

lemma orderly_read? {decode : Json.Decoder α}
    (h : ∀ reply, passes { call := (script.controller address).reading path, reply }
      ↔ Tells decode reply) :
    Sends ((script.controller address).read? path decode) (Orderly passes excuse) :=
  sends_read? (fun reply x hx => orderly_passed ((h reply).2 (tells_iff.2 (.inr ⟨x, hx⟩))))
    (fun reply habsent => orderly_passed ((h reply).2 (tells_iff.2 (.inl habsent))))
    fun reply _ hnot => orderly_failed (mt (h reply).1 hnot)

end

lemma Sends.orderly_inPhase {passes : Exchange → Prop} {excuse : Error → Prop}
    {a : Action (List Exchange) α} (h : Sends a (Orderly passes excuse))
    (hexcuse : ∀ phase err, excuse err → excuse (.context phase err)) (phase : String) :
    Sends (a.inPhase phase) (Orderly passes excuse) :=
  h.inPhase fun _ _ htrace => htrace.inPhase hexcuse phase

lemma Sends.orderly_map {passes : Exchange → Prop} {excuse : Error → Prop}
    {a : Action (List Exchange) α} (h : Sends a (Orderly passes excuse)) (f : α → β) :
    Sends (f <$> a) (Orderly passes excuse) := by
  rw [← bind_pure_comp]
  exact h.orderly_bind fun _ => Sends.pure orderly_nil

/-- **Requests are sent in turn**: all of them if the action succeeds. -/
structure InTurn (calls : List Call) (trace : List Exchange) (result : Except Error α) : Prop where
  among : trace.map (·.call) <+: calls
  all : ∀ x, result = .ok x → trace.map (·.call) = calls

section

variable {calls calls' : List Call}

lemma inTurn_nil {x : α} : InTurn [] [] (.ok x : Except Error α) :=
  ⟨List.prefix_rfl, fun _ _ => rfl⟩

lemma inTurn_singleton (call : Call) (reply : Option Reply) (result : Except Error α) :
    InTurn [call] [{ call, reply }] result :=
  ⟨List.prefix_rfl, fun _ _ => rfl⟩

lemma InTurn.mem {result : Except Error α} (h : InTurn calls trace result) (he : e ∈ trace) :
    e.call ∈ calls :=
  h.among.subset (List.mem_map_of_mem he)

lemma InTurn.inPhase {result : Except Error α} (h : InTurn calls trace result) (phase : String) :
    InTurn calls trace (FailoverStorage.inPhase phase result) := by
  cases result with
  | ok x => exact h
  | error err => exact ⟨h.among, fun _ h => nomatch h⟩

lemma inTurn_send {script : Script} {address method path : String} {body : Option Json} :
    Sends ((script.controller address).send method path body)
      (InTurn [{ method, url := address ++ path, body }]) :=
  sends_send (fun _ _ => inTurn_singleton _ _ _) fun _ _ _ _ => inTurn_singleton _ _ _

lemma inTurn_orAbsent {script : Script} {address method path : String} {body : Option Json} :
    Sends ((script.controller address).send method path body).orAbsent
      (InTurn [{ method, url := address ++ path, body }]) :=
  sends_orAbsent (fun _ _ => inTurn_singleton _ _ _) fun _ _ _ => inTurn_singleton _ _ _

lemma Sends.inTurn_bind {a : Action (List Exchange) α} {f : α → Action (List Exchange) β}
    (h : Sends a (InTurn calls)) (hf : ∀ x, Sends (f x) (InTurn calls')) :
    Sends (a >>= f) (InTurn (calls ++ calls')) := by
  refine h.bind (fun trace err htrace => ?_) fun trace x htrace => (hf x).imp fun rest _ hrest => ?_
  · exact ⟨htrace.among.trans (List.prefix_append _ _), fun _ h => nomatch h⟩
  · rw [← htrace.all x rfl]
    exact ⟨by rw [List.map_append]; exact (List.prefix_append_right_inj _).2 hrest.among,
      fun y hok => by rw [List.map_append, hrest.all y hok]⟩

end

end Controller

end FailoverStorage

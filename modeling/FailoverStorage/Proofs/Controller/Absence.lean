import FailoverStorage.Proofs.Controller.Cuts
import FailoverStorage.Proofs.Gateway.Isolation

/-!
# What is absent

Deleting an endpoint asks for three things that may be absent: the entry of its configuration, the
placements of its resource, and the resource itself.  An absent entry is none, whether the store
lacks it or there is no store, and an absent resource is as good as a deleted one.  Absent
placements are not: a controller that has none of a resource is taken for idle only if it shows an
empty list (`Controller.delete_of_lacking`).  One that answers that there is no such resource ends
the wait, and the deletion fails.
-/

namespace FailoverStorage

open FailoverStorage.Action

/-- What was asked and answered after one more request. -/
def Script.after (script : Script) (log : List Exchange) (call : Call) : List Exchange :=
  log ++ [{ call, reply := script log call }]

namespace Controller

/-- An answer of the store has nothing at a path. -/
def Lacks (reply : Option Reply) (path : String) : Prop :=
  ∃ entries, entriesOf reply = .ok entries ∧ entries.find? path = none

/-- Where there is no store there is nothing in it. -/
lemma lacks_of_absent {reply : Option Reply} (h : Absent reply) (path : String) :
    Lacks reply path := by
  refine ⟨.empty, ?_, SortedMap.find?_empty path⟩
  rw [entriesOf, told_of_absent h]
  rfl

variable {script : Script} {address : String} {log : List Exchange} {resource : String}

lemma deleteConfig_of_lacks {id : String}
    (h : Lacks (script log ((script.controller address).reading entriesPath))
      (PromoterConfig.pathOf id)) :
    (script.controller address).deleteConfig id log
      = (.ok (), script.after log ((script.controller address).reading entriesPath)) := by
  obtain ⟨entries, hentries, hnone⟩ := h
  have htold : (script.controller address).entries log
      = (.ok entries, script.after log ((script.controller address).reading entriesPath)) := by
    rw [entries_apply]
    exact Prod.ext hentries rfl
  have hfound : (script.controller address).findConfig id log
      = (.ok none, script.after log ((script.controller address).reading entriesPath)) := by
    rw [findConfig, bind_apply_ok htold]
    simp only [hnone]
    rfl
  rw [deleteConfig, bind_apply_ok hfound]
  rfl

/-! ## The wait -/

variable {w : Waiter} {goal : String} {done : List Placement → Bool} {t : List Exchange}

/-- A wait that was not called off polls at once. -/
lemma await_apply (hw : w.cancelled = false) :
    ∃ late count, Gateway.await ⟨(script.controller address).backend, w⟩ resource goal done log
      = (Waiter.poll (((script.controller address).placements resource).inPhase
          ("failed to poll resource " ++ resource)) done late (count + 1)).inPhase
            ("failed to wait for " ++ resource ++ " to " ++ goal) log := by
  rw [Gateway.await, Waiter.waitUntil, if_neg (by simp [hw])]
  exact ⟨_, _, rfl⟩

lemma await_of_error (hw : w.cancelled = false) {err : Error}
    (h : (script.controller address).placements resource log = (.error err, t)) :
    ∃ err', err'.kind = err.kind
      ∧ Gateway.await ⟨(script.controller address).backend, w⟩ resource goal done log
        = (.error err', t) := by
  obtain ⟨late, count, hpoll⟩ := await_apply hw
  have hread : ((script.controller address).placements resource).inPhase
      ("failed to poll resource " ++ resource) log
        = (.error (.context ("failed to poll resource " ++ resource) err), t) := by
    rw [Action.inPhase, h]
    rfl
  refine ⟨.context ("failed to wait for " ++ resource ++ " to " ++ goal)
    (.context ("failed to poll resource " ++ resource) err), rfl, ?_⟩
  rw [hpoll, Action.inPhase, Waiter.poll, bind_apply_error hread]
  rfl

lemma await_of_done (hw : w.cancelled = false) {found : List Placement} (hdone : done found = true)
    (h : (script.controller address).placements resource log = (.ok found, t)) :
    Gateway.await ⟨(script.controller address).backend, w⟩ resource goal done log
      = (.ok (), t) := by
  obtain ⟨late, count, hpoll⟩ := await_apply hw
  rw [hpoll, Action.inPhase, Waiter.poll, bind_apply_ok (inPhase_apply_ok _ h), if_pos hdone]
  rfl

/-! ## The resource -/

/-- Whether a resource is gone shows in the answer to deleting it. -/
lemma exists_orAbsent_delete (path : String) :
    ∃ result, ((script.controller address).send "DELETE" path).orAbsent log
        = (result, script.after log ((script.controller address).deleting path))
      ∧ (result = .ok () ↔ Accepted (script log ((script.controller address).deleting path))
        ∨ Absent (script log ((script.controller address).deleting path))) := by
  have hcall := call_apply (script.controller address) "DELETE" path none log
  rcases outcome_cases "DELETE" path (script log ((script.controller address).deleting path))
    with ⟨r, hr, hlow, hhigh, hok⟩ | ⟨err, herr, hnot, habsent⟩
  · have hsend : (script.controller address).send "DELETE" path none log
        = (.ok (), script.after log ((script.controller address).deleting path)) := by
      rw [send, bind_apply_ok (hcall.trans (Prod.ext hok rfl))]
      rfl
    refine ⟨.ok (), ?_, iff_of_true rfl (.inl ⟨r, hr, hlow, hhigh⟩)⟩
    rw [Action.orAbsent, hsend]
  · have hsend : (script.controller address).send "DELETE" path none log
        = (.error err, script.after log ((script.controller address).deleting path)) := by
      rw [send, bind_apply_error (hcall.trans (Prod.ext herr rfl))]
      rfl
    refine ⟨if err.isNotFound then .ok () else .error err, ?_, ?_⟩
    · rw [Action.orAbsent, hsend]
    · rw [← habsent, or_iff_right hnot]
      cases err.isNotFound <;> simp

variable {p : Protocol}

/-- **Deleting an endpoint of which the store has no entry** begins with a view of the placements.
If there are none because there is no such resource, the deletion fails and nothing was deleted.  If
the view shows the resource idle, it is deleted, and it need not exist. -/
theorem delete_of_lacking (hw : w.cancelled = false) (id : p.Identity)
    (hentry : Lacks (script log ((script.controller address).reading entriesPath))
      (PromoterConfig.pathOf (Protocol.configId id))) :
    let c := script.controller address
    let told := script.after log (c.reading entriesPath)
    let view := script told (c.reading (placementsPath (Protocol.resourceName id)))
    let viewed := script.after told (c.reading (placementsPath (Protocol.resourceName id)))
    let deleting := c.deleting (definitionPath (Protocol.resourceName id))
    (Absent view → ∃ err, err.kind = .notFound
        ∧ Gateway.delete ⟨c.backend, w⟩ id log = (.error err, viewed))
      ∧ ∀ found, Shows (Json.Decode.list decodePlacement) view found →
        Waiter.noneInUse found = true → ∃ result,
          Gateway.delete ⟨c.backend, w⟩ id log = (result, script.after viewed deleting)
            ∧ (result = .ok ()
              ↔ Accepted (script viewed deleting) ∨ Absent (script viewed deleting)) := by
  intro c told view viewed deleting
  have hconfig : (c.deleteConfig (Protocol.configId id)).inPhase
      ("failed to delete promoter config " ++ Protocol.configId id) log = (.ok (), told) :=
    inPhase_apply_ok _ (deleteConfig_of_lacks hentry)
  have hdelete : Gateway.delete ⟨c.backend, w⟩ id log = (do
      Gateway.await ⟨c.backend, w⟩ (Protocol.resourceName id) "stop" Waiter.noneInUse
      ((c.send "DELETE" (definitionPath (Protocol.resourceName id))).orAbsent).inPhase
        ("failed to delete resource " ++ Protocol.resourceName id)) told :=
    bind_apply_ok hconfig _
  constructor
  · intro habsent
    obtain ⟨err, hkind, hawait⟩ := await_of_error hw (read_of_absent habsent)
    exact ⟨err, hkind, hdelete.trans (bind_apply_error hawait _)⟩
  · intro found hshows hidle
    have hawait : Gateway.await ⟨c.backend, w⟩ (Protocol.resourceName id) "stop" Waiter.noneInUse
        told = (.ok (), viewed) := await_of_done hw hidle (read_of_shows hshows)
    obtain ⟨result, hdeleted, hgone⟩ :=
      exists_orAbsent_delete (definitionPath (Protocol.resourceName id))
    refine ⟨FailoverStorage.inPhase ("failed to delete resource " ++ Protocol.resourceName id)
      result, ?_, ?_⟩
    · rw [hdelete, bind_apply_ok hawait, Action.inPhase, hdeleted]
    · rw [← hgone]
      cases result <;> simp [FailoverStorage.inPhase]

/-! ## A controller that has nothing -/

/-- A controller that has nothing, and says so of everything but placements, of which it shows an
empty list. -/
def emptyScript : Script := fun _ call =>
  if call.url = placementsPath "data" then some { status := 200, body := "[]" }
  else some { status := 404, body := "" }

/-- A controller that has nothing, and says so of everything. -/
def absentScript : Script := fun _ _ => some { status := 404, body := "" }

/-- Where an empty list of placements is shown, deleting an export that does not exist succeeds. -/
theorem delete_of_lacking_emptyScript :
    Lacks (emptyScript [] ((emptyScript.controller "").reading entriesPath))
        (PromoterConfig.pathOf (Protocol.configId Endpoint.plainExport.identity))
      ∧ ∃ log, Gateway.delete ⟨(emptyScript.controller "").backend, Operation.halfSecond⟩
        Endpoint.plainExport.identity [] = (.ok (), log) := by
  have habsent : ∀ log call, call.url ≠ placementsPath "data" → Absent (emptyScript log call) :=
    fun _ _ h => ⟨_, if_neg h, rfl⟩
  have hlacks : Lacks (emptyScript [] ((emptyScript.controller "").reading entriesPath))
      (PromoterConfig.pathOf (Protocol.configId Endpoint.plainExport.identity)) :=
    lacks_of_absent (habsent _ _ (by decide +kernel)) _
  obtain ⟨-, hidle⟩ := delete_of_lacking (w := Operation.halfSecond) rfl _ hlacks
  obtain ⟨result, hrun, hgone⟩ := hidle [] ⟨_, if_pos (by decide +kernel), by decide, by decide,
    by decide +kernel⟩ rfl
  rw [hgone.2 (.inr (habsent _ _ (by decide +kernel)))] at hrun
  exact ⟨hlacks, _, hrun⟩

/-- **Where it is not shown, the deletion fails**: everything is absent, and still an export that
does not exist cannot be deleted. -/
theorem delete_absentScript : (∀ log call, Absent (absentScript log call))
    ∧ ∃ err log, Gateway.delete ⟨(absentScript.controller "").backend, Operation.halfSecond⟩
        Endpoint.plainExport.identity [] = (.error err, log)
      ∧ err.kind = .notFound ∧ OnlyReads log := by
  have hfails : (match Gateway.delete ⟨(absentScript.controller "").backend, Operation.halfSecond⟩
      Endpoint.plainExport.identity [] with
    | (.error err, log) => decide (err.kind = .notFound) && log.all (·.call.method = "GET")
    | (.ok _, _) => false) = true := by decide +kernel
  refine ⟨fun _ _ => ⟨_, rfl, rfl⟩, ?_⟩
  split at hfails
  next err log hrun =>
    simp only [Bool.and_eq_true, decide_eq_true_eq, List.all_eq_true] at hfails
    exact ⟨err, log, hrun, hfails.1, hfails.2⟩
  next => cases hfails

end Controller

end FailoverStorage

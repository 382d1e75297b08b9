import FailoverStorage.Proofs.Gateway.Legibility

/-!
# Whose endpoint an identity addresses

Operations look for an endpoint under the id of its configuration, and only the name at the end of a
qualified name enters that id.  So an operation on one qualified name may answer with the endpoint
of another one that ends alike (`Operation.get_other_createdCluster`).

What every run guarantees is `Cluster.ReachableBy.identity_of_answers`: the answer has the
configuration id of the identity, and it has the identity itself unless an endpoint of another
identity with that id was asked for.  Names of exports are their own ids, so there the answer
always has the identity.
-/

namespace FailoverStorage

open FailoverStorage.Action

namespace Operation

variable {asked : (p : Protocol) → Endpoint p → Prop} {p : Protocol} {id : p.Identity}
  {e : Endpoint p} {c s t : Cluster} {w : Waiter}

/-! ## Answers -/

/-- **An operation on an identity answers with an endpoint.** -/
inductive Answers (w : Waiter) (id : p.Identity) (e : Endpoint p) (c : Cluster) :
    Operation p → Prop where
  | get (h : ((gateway w).get id c).1 = .ok (some e)) : Answers w id e c (.get id)
  | start (h : ((gateway w).start id c).1 = .ok (some e)) : Answers w id e c (.start id)
  | stop (h : ((gateway w).stop id c).1 = .ok (some e)) : Answers w id e c (.stop id)
  | addVolume (v : Volume) (h : ((gateway w).addVolume id v c).1 = .ok (some e)) :
    Answers w id e c (.addVolume id v)
  | deleteVolume (number : UInt32) (h : ((gateway w).deleteVolume id number c).1 = .ok (some e)) :
    Answers w id e c (.deleteVolume id number)

/-- An action ends in a report. -/
def EndsInReport (id : p.Identity) (a : Action Cluster (Option (Endpoint p))) : Prop :=
  ∀ e s t, a s = (.ok (some e), t) → reported id t = .ok (some e)

lemma endsInReport_get : EndsInReport id ((gateway w).get id) := fun _ _ _ h => by
  rw [get_eq_reported] at h
  obtain ⟨hreported, rfl⟩ := Prod.mk.inj h
  exact hreported

lemma endsInReport_none : EndsInReport id (pure none) := fun _ _ _ h => nomatch h

lemma endsInReport_throw (err : Error) : EndsInReport id (throw err) := fun _ _ _ h => nomatch h

lemma EndsInReport.bind {α : Type} {a : Action Cluster α}
    {f : α → Action Cluster (Option (Endpoint p))} (h : ∀ x, EndsInReport id (f x)) :
    EndsInReport id (a >>= f) := fun e _ t hrun => by
  obtain ⟨x, u, -, hrun⟩ := exists_of_bind_eq_ok hrun
  exact h x e u t hrun

/-- What follows a look-up ends in a report, if it does for what is found. -/
lemma EndsInReport.bind_found {a : Action Cluster (Option StoredConfig)}
    {f : StoredConfig → Action Cluster (Option (Endpoint p))} (h : ∀ x, EndsInReport id (f x)) :
    EndsInReport id (a >>= fun
      | none => pure none
      | some stored => f stored) :=
  .bind fun
    | none => endsInReport_none
    | some stored => h stored

/-- **What an operation answers is what is reported afterwards.** -/
lemma reported_of_answers {op : Operation p} (h : Answers w id e c op) :
    reported id (op.after w c) = .ok (some e) := by
  have hreports : ∀ {a : Action Cluster (Option (Endpoint p))}, EndsInReport id a →
      (a c).1 = .ok (some e) → reported id (a c).2 = .ok (some e) :=
    fun ha hok => ha e c _ (Prod.ext hok rfl)
  cases h with
  | get h => exact hreports endsInReport_get h
  | start h =>
      exact hreports (.bind_found fun _ => .bind fun _ => .bind fun _ => endsInReport_get) h
  | stop h =>
      exact hreports (.bind_found fun _ => .bind fun _ => .bind fun _ => endsInReport_get) h
  | addVolume v h =>
      refine hreports (.bind fun _ => .bind_found fun _ => ?_) h
      exact .bind fun _ => .bind fun _ => .bind fun _ => endsInReport_get
  | deleteVolume number h =>
      refine hreports ?_ h
      rw [Gateway.deleteVolume]
      split
      · exact endsInReport_throw _
      refine .bind_found fun stored => .bind fun x => ?_
      simp only
      split
      · exact endsInReport_throw _
      · exact .bind fun _ => .bind fun _ => endsInReport_get

/-- Identities with one configuration id are reported alike. -/
lemma reported_of_configId_eq {other : p.Identity}
    (hid : Protocol.configId id = Protocol.configId other) : reported id c = reported other c := by
  rw [reported, reported, found, found, hid, (Protocol.configId_inj hid).2]

/-! ## Requests behind answers -/

/-- What is reported of a rooted endpoint stems from a request. -/
lemma Rooted.asked_reported (h : Rooted asked id c) (he : reported id c = .ok (some e)) :
    Asked asked id e := by
  obtain ⟨stored?, hfound, he⟩ := bind_eq_ok_iff.1 he
  cases stored? with
  | none => cases he
  | some stored =>
      obtain ⟨e', hread, heq⟩ := map_eq_ok_iff.1 he
      cases heq
      exact h.asked_reconstruct (h.writtenFor_found hfound) hread

/-- Names of exports are their own ids. -/
lemma eq_of_configId_nfs {name other : Protocol.Identity .nfs}
    (h : Protocol.configId name = Protocol.configId other) : name = other :=
  (Protocol.configId_inj h).2

end Operation

open Operation in
/-- **Whose endpoint an operation answers with.**  In every run with given requests the answer has
the configuration id of the identity that the operation is about.  It has that identity itself
unless an endpoint of another identity with the same id was asked for, and for exports always. -/
theorem Cluster.ReachableBy.identity_of_answers {asked : (p : Protocol) → Endpoint p → Prop}
    {c : Cluster} (hc : ReachableBy asked c) {p : Protocol} {id : p.Identity} {e : Endpoint p}
    {op : Operation p} {w : Waiter} (h : Answers w id e c op) :
    e.configId = Protocol.configId id
      ∧ ((∀ requested, asked p requested → requested.configId = Protocol.configId id →
          requested.identity = id) → e.identity = id)
      ∧ (p = .nfs → e.identity = id) := by
  have hafter : ReachableBy asked (op.after w c) :=
    .operate hc op (fun requested heq => by subst heq; cases h) w
  obtain ⟨requested, hasked, hid, hstems⟩ :=
    (hafter.rooted.endpoint id).asked_reported (reported_of_answers h)
  have hconfigId := hstems.configId.trans hid
  refine ⟨hconfigId, fun hsame => ?_, fun hp => ?_⟩
  · rw [hstems.identity, hsame requested hasked hid]
  · subst hp
    exact eq_of_configId_nfs hconfigId

namespace Operation

/-! ## Two qualified names that end alike -/

/-- The subsystem of one volume is reported under its own name. -/
theorem get_own_createdCluster : ∃ e,
    ((gateway halfSecond).get dataNqn (createdCluster plainSubsystem)).1 = .ok (some e)
      ∧ e.identity = dataNqn := by
  obtain ⟨e, -, he, -⟩ := exists_create_subsystem plainSubsystem (by decide) rfl
  have hget : ((gateway halfSecond).get dataNqn (createdCluster plainSubsystem)).1
      = .ok (some e) := by
    rw [get_eq_reported]
    exact he
  have hrun := reachableBy_createdCluster plainSubsystem
  refine ⟨e, hget, (hrun.identity_of_answers (.get hget)).2.1 fun requested hasked _ => ?_⟩
  cases hasked
  rfl

/-- The name of a subsystem of another authority. -/
def otherNqn : Protocol.Identity .nvmeof :=
  (⟨"nqn.2021-01.org.other:data", by decide⟩ : Nqn)

/-- **A name that ends alike addresses the endpoint of another one.** -/
theorem get_other_createdCluster :
    Cluster.Reachable (fun _ => True) (createdCluster plainSubsystem)
      ∧ ∃ e, ((gateway halfSecond).get otherNqn (createdCluster plainSubsystem)).1 = .ok (some e)
        ∧ e.identity ≠ otherNqn := by
  have hids : Protocol.configId dataNqn = Protocol.configId otherNqn := by decide
  obtain ⟨e, -, he, hidentity⟩ := exists_create_subsystem plainSubsystem (by decide) rfl
  refine ⟨reachable_createdCluster trivial plainSubsystem, e, ?_, ?_⟩
  · rw [get_eq_reported, ← reported_of_configId_eq hids]
    exact he
  · rw [hidentity]
    decide

end Operation

end FailoverStorage

import FailoverStorage.Proofs.Endpoint.Rereading
import FailoverStorage.Proofs.Gateway.Stranding
import FailoverStorage.Proofs.Status

/-!
# The volume that nobody sees

Volume 0 of a resource belongs to the cluster.  Stored documents and placements may name it, as they
may name volumes twice and in any order: somebody else may have written them.  What a gateway
returns never shows it, and shows the other volumes in ascending order
(`Gateway.presentable_of_returns`), for every backend and so for every state of a cluster.

The reason is that all endpoints that are returned come from one place.  `Action.Yields Q a` says
that every value of an action satisfies `Q`; what an action yields is decided by its last step, so
each operation is followed back to where it reads an endpoint.
-/

namespace FailoverStorage

open FailoverStorage.Action

/-! ## Endpoints that are fit to be shown -/

/-- **An endpoint shows data volumes only, in ascending order**, and so does its status, which shows
each of them once. -/
structure Endpoint.Presentable {p : Protocol} (e : Endpoint p) : Prop extends e.Ordered where
  reported : e.status.volumes.Pairwise fun v w => v.number < w.number
  data : ∀ v ∈ e.status.volumes, v.number ≠ Volume.privateNumber

namespace Status

variable (attached : Bool) (definition : Option ResourceDefinition) (group : Option ResourceGroup)
  (placements : List Placement)

/-- A status shows each volume once, in ascending order. -/
lemma pairwise_volumes_ofPlacements :
    (ofPlacements attached definition group placements).volumes.Pairwise
      fun v w => v.number < w.number := by
  rw [ofPlacements]
  split
  · exact List.Pairwise.nil
  · exact List.pairwise_map.2 (ascending_volumeNumbers placements)

/-- A status shows data volumes only, whatever the placements have. -/
lemma number_ne_of_mem_volumes_ofPlacements {v : VolumeStatus}
    (hv : v ∈ (ofPlacements attached definition group placements).volumes) :
    v.number ≠ Volume.privateNumber := by
  rw [ofPlacements] at hv
  split at hv
  · cases hv
  · obtain ⟨n, hn, rfl⟩ := List.mem_map.1 hv
    exact (mem_volumeNumbers.1 hn).2

end Status

/-- **What is read off a stored configuration is fit to be shown.** -/
lemma Gateway.presentable_of_reconstruct {p : Protocol} {stored : StoredConfig}
    {deployed : DeployedState} {e : Endpoint p}
    (h : reconstruct p stored deployed = .ok e) : e.Presentable := by
  obtain ⟨read, hread, hfields⟩ := Operation.exists_ofPromoter_of_reconstruct h
  have hvolumes : e.volumes = read.volumes := by rw [hfields]
  obtain ⟨horder, hnumbers⟩ := Endpoint.ordered_of_ofPromoter hread
  have hstatus : e.status
      = .ofPlacements stored.attached deployed.definition deployed.group deployed.placements := by
    obtain ⟨_, -, heq⟩ := bind_eq_ok_iff.1 h
    cases heq
    rfl
  refine ⟨⟨hvolumes ▸ horder, hvolumes ▸ hnumbers⟩, ?_, fun v hv => ?_⟩
  · rw [hstatus]
    exact Status.pairwise_volumes_ofPlacements _ _ _ _
  · rw [hstatus] at hv
    exact Status.number_ne_of_mem_volumes_ofPlacements _ _ _ _ hv

/-! ## What actions yield -/

namespace Action

variable {σ α β : Type} {Q : α → Prop} {S : β → Prop}

/-- **Every value of an action satisfies `Q`**, from whatever state. -/
def Yields (Q : α → Prop) (a : Action σ α) : Prop :=
  Triple (fun _ => True) a (fun x _ => Q x) fun _ => True

/-- What an action yields, where it does. -/
lemma Yields.of_apply {a : Action σ α} (h : Yields Q a) {s : σ} {x : α}
    (hx : (a s).1 = .ok x) : Q x :=
  (h s trivial).1 x _ (Prod.ext hx rfl)

lemma yields_true (a : Action σ α) : Yields (fun _ => True) a :=
  Triple.of_state fun _ _ => trivial

lemma yields_pure {x : α} (h : Q x) : Yields Q (Pure.pure x : Action σ α) :=
  .pure fun _ _ => h

lemma yields_throw (err : Error) : Yields Q (MonadExcept.throw err : Action σ α) :=
  .throw fun _ h => h

lemma Yields.bind {a : Action σ α} {f : α → Action σ β} (ha : Yields Q a)
    (hf : ∀ x, Q x → Yields S (f x)) : Yields S (a >>= f) :=
  Triple.bind ha fun x s hx => hf x hx s trivial

/-- What comes last decides. -/
lemma Yields.bind_any {a : Action σ α} {f : α → Action σ β} (hf : ∀ x, Yields S (f x)) :
    Yields S (a >>= f) :=
  (yields_true a).bind fun x _ => hf x

end Action

/-! ## What operations return -/

namespace Gateway

variable {σ : Type} {g : Gateway σ} {s : σ} {p : Protocol} {id : p.Identity} {e : Endpoint p}

/-- **An operation of a gateway returns an endpoint** from a state, alone or in a list.  Deleting
returns none. -/
inductive Returns (g : Gateway σ) (s : σ) (e : Endpoint p) : Operation p → Prop where
  | get (id : p.Identity) (h : (g.get id s).1 = .ok (some e)) : Returns g s e (.get id)
  | list (es : List (Endpoint p)) (h : (g.list p s).1 = .ok es) (he : e ∈ es) : Returns g s e .list
  | create (requested : Endpoint p) (h : (g.create requested s).1 = .ok e) :
    Returns g s e (.create requested)
  | start (id : p.Identity) (h : (g.start id s).1 = .ok (some e)) : Returns g s e (.start id)
  | stop (id : p.Identity) (h : (g.stop id s).1 = .ok (some e)) : Returns g s e (.stop id)
  | addVolume (id : p.Identity) (v : Volume) (h : (g.addVolume id v s).1 = .ok (some e)) :
    Returns g s e (.addVolume id v)
  | deleteVolume (id : p.Identity) (number : UInt32)
    (h : (g.deleteVolume id number s).1 = .ok (some e)) : Returns g s e (.deleteVolume id number)

/-- A found endpoint is fit to be shown. -/
abbrev FoundPresentable (found : Option (Endpoint p)) : Prop := ∀ e ∈ found, e.Presentable

lemma yields_load (stored : StoredConfig) (resource : String) :
    Yields (fun x => x.1.Presentable) (g.load p stored resource) := by
  refine .bind_any fun deployed => ?_
  refine .bind (Q := Endpoint.Presentable) ?_ fun e he => yields_pure he
  exact .ofExcept (fun e _ he _ => presentable_of_reconstruct he) fun _ h => h

/-- What follows a look-up finds what is fit to be shown, if it does so for what was looked up. -/
lemma yields_found {a : Action σ (Option StoredConfig)}
    {f : StoredConfig → Action σ (Option (Endpoint p))}
    (h : ∀ stored, Yields FoundPresentable (f stored)) :
    Yields FoundPresentable (a >>= fun
      | none => pure none
      | some stored => f stored) :=
  .bind_any fun
    | none => yields_pure fun _ he => nomatch he
    | some stored => h stored

lemma yields_get : Yields FoundPresentable (g.get id) :=
  yields_found fun stored => (yields_load stored _).bind fun _ hx =>
    yields_pure fun _ he => Option.some.inj he ▸ hx

lemma yields_start : Yields FoundPresentable (g.start id) :=
  yields_found fun _ => .bind_any fun _ => .bind_any fun _ => yields_get

lemma yields_stop : Yields FoundPresentable (g.stop id) :=
  yields_found fun _ => .bind_any fun _ => .bind_any fun _ => yields_get

lemma yields_addVolume (v : Volume) : Yields FoundPresentable (g.addVolume id v) :=
  .bind_any fun _ => yields_found fun _ => .bind_any fun _ => .bind_any fun _ => .bind_any fun _ =>
    yields_get

lemma yields_deleteVolume (number : UInt32) :
    Yields FoundPresentable (g.deleteVolume id number) := by
  rw [deleteVolume]
  split
  · exact yields_throw _
  refine yields_found fun stored => .bind_any fun x => ?_
  simp only
  split
  · exact yields_throw _
  · exact .bind_any fun _ => .bind_any fun _ => yields_get

/-- What is created was there already, or is started. -/
lemma yields_create (requested : Endpoint p) :
    Yields Endpoint.Presentable (g.create requested) := by
  refine .bind_any fun _ => .bind_any fun _ => .bind_any fun stored? => ?_
  cases stored? with
  | some stored =>
      refine (yields_load stored _).bind fun x hx => ?_
      simp only
      split
      · exact yields_pure hx
      · exact yields_throw _
  | none =>
      refine .bind_any fun _ => .bind_any fun _ => yields_start.bind fun found hfound => ?_
      cases found with
      | some e => exact yields_pure (hfound e rfl)
      | none => exact yields_throw _

lemma yields_endpointsOf (stored : List StoredConfig) :
    Yields (fun es => ∀ e ∈ es, e.Presentable) (g.endpointsOf p stored) := by
  induction stored with
  | nil => exact yields_pure fun _ he => nomatch he
  | cons stored rest ih =>
      rw [endpointsOf]
      split
      · exact ih
      refine .bind_any fun deployed => ih.bind fun others hothers => ?_
      split
      · rename_i e he
        refine yields_pure fun e' he' => ?_
        rcases List.mem_cons.1 he' with rfl | he'
        · exact presentable_of_reconstruct he
        · exact hothers e' he'
      · exact yields_pure hothers

/-- **Volume 0 is never shown**, and the others are shown in ascending order: whatever an operation
returns, with any backend in any state, is fit to be shown. -/
theorem presentable_of_returns {op : Operation p} (h : g.Returns s e op) : e.Presentable := by
  cases h with
  | get id h => exact yields_get.of_apply h e rfl
  | list es h he => exact (Yields.bind_any fun _ => yields_endpointsOf _).of_apply h e he
  | create requested h => exact (yields_create requested).of_apply h
  | start id h => exact yields_start.of_apply h e rfl
  | stop id h => exact yields_stop.of_apply h e rfl
  | addVolume id v h => exact (yields_addVolume v).of_apply h e rfl
  | deleteVolume id number h => exact (yields_deleteVolume number).of_apply h e rfl

end Gateway

namespace Operation

/-! ## A document written by hand -/

/-- The name of a target. -/
def dataIqn : Protocol.Identity .iscsi :=
  (⟨"iqn.2020-01.com.example:data", rfl⟩ : Iqn)

/-- A configuration that no gateway writes: its units are in no order, one is of volume 0, and two
of them are of volume 1, which they spell differently. -/
def crowdedConfig : PromoterConfig :=
  .single "iscsi-data" "data"
    (.ofList Agent.iscsiTargetKind "target" [("iqn", "iqn.2020-01.com.example:data")]
      :: ["2", "0", "+1", "01"].map fun lun => .ofList Agent.logicalUnitKind "unit" [("lun", lun)])

/-- A cluster with that configuration, and with a placement that agrees neither with it nor with the
definition of the resource. -/
def crowdedCluster : Cluster :=
  ({ resources := SortedMap.empty.insert "data"
      { definition := { name := "data", resourceGroup := "" }
        placements := [
          { name := "data", nodeName := "node-b", inUse := some false
            volumes := [{ number := 3 }, { number := 0 }, { number := 1 }, { number := 1 }] }] } }
    : Cluster).storeText "iscsi-data" crowdedConfig.toToml true

lemma stored_crowdedCluster : Stored dataIqn crowdedConfig true crowdedCluster where
  belongs := PromoterConfig.belongs_single fun a ha => by
    rcases List.mem_cons.1 ha with rfl | ha
    · exact Endpoint.writable_ofList_of_mem (by simp [Endpoint.agentKinds]) (by decide +kernel)
        (by simp [Endpoint.attributeKeys])
    · obtain ⟨lun, -, rfl⟩ := List.mem_map.1 ha
      exact Endpoint.writable_ofList_of_mem (by simp [Endpoint.agentKinds]) (by decide +kernel)
        (by simp [Endpoint.attributeKeys])
  text := rfl

/-- The target is returned with its volumes 1, 1 and 2, and its status with the volumes 1 and 3. -/
theorem presentable_crowdedCluster : ∃ e : Endpoint .iscsi,
    (gateway halfSecond).Returns crowdedCluster e (.get dataIqn)
      ∧ e.volumes.map (·.number) = [1, 1, 2] ∧ e.status.volumes.map (·.number) = [1, 3]
      ∧ e.Presentable := by
  obtain ⟨e, he, hvolumes, hstatus⟩ : ∃ e, reported dataIqn crowdedCluster = .ok (some e)
      ∧ e.volumes.map (·.number) = [1, 1, 2] ∧ e.status.volumes.map (·.number) = [1, 3] := by
    rw [stored_crowdedCluster.reported_eq]
    exact ⟨_, rfl, by decide +kernel, by decide +kernel⟩
  have hreturns : (gateway halfSecond).Returns crowdedCluster e (.get dataIqn) :=
    .get dataIqn (by rw [get_eq_reported, he])
  exact ⟨e, hreturns, hvolumes, hstatus, Gateway.presentable_of_returns hreturns⟩

end Operation

end FailoverStorage

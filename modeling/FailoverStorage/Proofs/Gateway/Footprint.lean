import FailoverStorage.Proofs.Gateway.Creation
import FailoverStorage.Proofs.Gateway.Interruption

/-!
# The footprint of an operation

An operation is about at most one endpoint, which owns one path and one name.  Everything that is
stored at another path or defined under another name, and the nodes and groups of the cluster, it
leaves exactly as they were (`Cluster.Interrupted.footprint`), and so does a whole history of
operations (`Cluster.Interrupted.leavesOthers_history`).

Promoting and demoting follow what a stored document lists, not the endpoint asked for.  That they
stay in their place rests on the texts of a run: each of them is of the id that its path shows, and
lists at most the resource of that endpoint (`Cluster.OwnTexts`).
-/

namespace FailoverStorage

namespace Operation

variable {p : Protocol}

/-! ## What an operation owns -/

/-- The path of the configuration that an operation is about, if it is about an endpoint. -/
def ownPath? (op : Operation p) : Option String :=
  op.identity?.map fun id => PromoterConfig.pathOf (Protocol.configId id)

/-- The name of the resource that an operation is about, if it is about an endpoint. -/
def ownName? (op : Operation p) : Option String :=
  op.identity?.map fun id => Protocol.resourceName id

end Operation

/-- **What is not owned is as it was**: the nodes, the groups, each configuration at another path
and each resource of another name. -/
structure Cluster.LeavesOthers (path name : Option String) (s t : Cluster) : Prop where
  nodes : t.nodes = s.nodes
  groups : t.groups = s.groups
  configs : ∀ other, some other ≠ path → t.configs.find? other = s.configs.find? other
  resources : ∀ other, some other ≠ name → t.resources.find? other = s.resources.find? other

namespace Cluster

variable {path name : Option String} {c s t : Cluster}

lemma LeavesOthers.refl (path name : Option String) (s : Cluster) : LeavesOthers path name s s :=
  ⟨rfl, rfl, fun _ _ => rfl, fun _ _ => rfl⟩

lemma SameOutside.leavesOthers {path : Option String} {name : String}
    (h : SameOutside path name s t) : LeavesOthers path (some name) s t where
  nodes := h.nodes
  groups := h.groups
  configs := h.configs
  resources := fun other hne => h.resources other fun heq => hne (congrArg some heq)

/-! ## Operations -/

variable {p : Protocol}

/-- An operation changes only what it owns, if each text is of the id that its path shows. -/
lemma OwnTexts.leavesOthers_run (hc : OwnTexts c) (op : Operation p) (w : Waiter)
    (switches : Nat → Switch) : LeavesOthers op.ownPath? op.ownName? c (op.run w switches c).1 := by
  cases hop : op.identity? with
  | none =>
      exact Operation.run_of_identity?_eq_none (P := LeavesOthers op.ownPath? op.ownName? c) w
        switches (fun _ _ h => ⟨h.nodes, h.groups, h.configs, h.resources⟩) hop (.refl _ _ c)
  | some id =>
      have hwithin := (Operation.within_run w switches op hop (hc p id)).1.leavesOthers
      rw [Operation.ownPath?, Operation.ownName?, hop]
      -- what the switches did to the clock is no part of the footprint
      exact ⟨hwithin.nodes, hwithin.groups, hwithin.configs, hwithin.resources⟩

/-- **The footprint of an operation.**  In every run of all protocols, whether the operation
succeeds or fails, it changes at most the configuration at the path and the resource of the name of
the endpoint that it is about. -/
theorem Interrupted.footprint (hc : Interrupted (fun _ => True) c) (op : Operation p)
    (w : Waiter) (switches : Nat → Switch) :
    LeavesOthers op.ownPath? op.ownName? c (op.run w switches c).1 :=
  hc.ownTexts.leavesOthers_run op w switches

/-- Removing an endpoint that never existed leaves the subsystem beside it, whose resource is in
use. -/
theorem footprint_createdCluster :
    Interrupted (fun _ => True) (Operation.createdCluster Operation.plainSubsystem)
      ∧ LeavesOthers (Operation.delete (p := .nfs) ("other" : String)).ownPath?
          (Operation.delete (p := .nfs) ("other" : String)).ownName?
          (Operation.createdCluster Operation.plainSubsystem)
          ((Operation.delete (p := .nfs) ("other" : String)).run Operation.halfSecond
            Operation.heldUp (Operation.createdCluster Operation.plainSubsystem)).1
      ∧ ∃ r, ((Operation.delete (p := .nfs) ("other" : String)).run Operation.halfSecond
            Operation.heldUp (Operation.createdCluster Operation.plainSubsystem)).1.resources.find?
              (Protocol.resourceName Operation.dataNqn) = some r
          ∧ r.placements.any (·.isInUse) = true := by
  have hrun : Interrupted (fun _ => True) (Operation.createdCluster Operation.plainSubsystem) :=
    (Operation.reachable_createdCluster trivial _).interrupted
  have hleaves := hrun.footprint (Operation.delete (p := .nfs) ("other" : String))
    Operation.halfSecond Operation.heldUp
  obtain ⟨r, hr, huse⟩ := Operation.exists_inUse_createdCluster
  exact ⟨hrun, hleaves, r, (hleaves.resources _ (by decide)).trans hr, huse⟩

/-! ## Histories -/

/-- An operation of one of the protocols, with the patience of its gateway and the switches that are
set while it runs. -/
structure Turn where
  /-- The protocol of the gateway. -/
  protocol : Protocol
  /-- The operation. -/
  op : Operation protocol
  /-- How long the gateway waits. -/
  patience : Waiter
  /-- What is set before each call. -/
  switches : Nat → Switch

/-- The state after some turns. -/
def afterTurns (turns : List Turn) (c : Cluster) : Cluster :=
  turns.foldl (fun c turn => (turn.op.run turn.patience turn.switches c).1) c

/-- **A history leaves what none of its operations is about**: the nodes, the groups, each
configuration whose path and each resource whose name no operation owns. -/
theorem Interrupted.leavesOthers_history (hc : Interrupted (fun _ => True) c)
    (turns : List Turn) :
    (afterTurns turns c).nodes = c.nodes ∧ (afterTurns turns c).groups = c.groups
      ∧ (∀ path, (∀ turn ∈ turns, some path ≠ turn.op.ownPath?) →
          (afterTurns turns c).configs.find? path = c.configs.find? path)
      ∧ ∀ name, (∀ turn ∈ turns, some name ≠ turn.op.ownName?) →
          (afterTurns turns c).resources.find? name = c.resources.find? name := by
  induction turns generalizing c with
  | nil => exact ⟨rfl, rfl, fun _ _ => rfl, fun _ _ => rfl⟩
  | cons turn turns ih =>
      have hfirst := hc.ownTexts.leavesOthers_run turn.op turn.patience turn.switches
      obtain ⟨hnodes, hgroups, hconfigs, hresources⟩ :=
        ih (hc.operate trivial turn.op turn.patience turn.switches)
      refine ⟨hnodes.trans hfirst.nodes, hgroups.trans hfirst.groups, fun path hpath => ?_,
        fun name hname => ?_⟩
      · exact (hconfigs path fun other hother => hpath other (List.mem_cons_of_mem _ hother)).trans
          (hfirst.configs path (hpath turn List.mem_cons_self))
      · exact (hresources name fun other hother => hname other
          (List.mem_cons_of_mem _ hother)).trans
          (hfirst.resources name (hname turn List.mem_cons_self))

end Cluster

end FailoverStorage

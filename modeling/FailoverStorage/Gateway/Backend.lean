import FailoverStorage.Promoter.Config
import FailoverStorage.Storage.Request

/-!
# Backends

The gateway acts on two stores that share no transaction: the storage controller, which deploys
resources, and the store of promoter configurations, which the daemons of the cluster obey.  A
backend offers both over one state, so an action on either is a step of that state which may fail.
A failed step keeps the changes it made before it failed.
-/

namespace FailoverStorage

/-! ## Actions -/

/-- A step on a state `σ` that yields a value or fails. -/
abbrev Action (σ α : Type) : Type := ExceptT Error (StateM σ) α

namespace Action

variable {σ α : Type}

/-- A computation that does not touch the state. -/
def ofExcept (result : Except Error α) : Action σ α := fun s => (result, s)

/-- Adds the phase that failed to the error of an action. -/
def inPhase (phase : String) (action : Action σ α) : Action σ α := fun s =>
  let (result, s) := action s
  (FailoverStorage.inPhase phase result, s)

/-- An action for which it is as good if its object does not exist. -/
def orAbsent (action : Action σ Unit) : Action σ Unit := fun s =>
  match action s with
  | (.error e, s) => (if e.isNotFound then .ok () else .error e, s)
  | done => done

/-- An action whose failure counts as a given value. -/
def getD (action : Action σ α) (default : α) : Action σ α := fun s =>
  match action s with
  | (.error _, s) => (.ok default, s)
  | done => done

end Action

/-! ## The two stores -/

/-- A configuration as it is stored. -/
structure StoredConfig where
  config : PromoterConfig
  /-- Where the daemons read it. -/
  path : String
  /-- Whether the daemons are set to run it. -/
  attached : Bool
  deriving DecidableEq, Inhabited

/-- **The storage controller.**  Deleting what does not exist fails with `Error.notFound`. -/
structure Storage (σ : Type) where
  /-- Creates a resource or brings it towards a request.  An existing resource that differs in its
  volumes is a conflict, unless missing volumes may be added. -/
  ensure : ResourceRequest → (mayExtend : Bool) → Action σ Deployment
  deleteResource : (name : String) → Action σ Unit
  deleteVolume : (name : String) → (number : UInt32) → Action σ Unit
  /-- Everything about a name. -/
  deployed : (name : String) → Action σ DeployedState
  /-- The placements of a resource; none if it does not exist. -/
  placements : (name : String) → Action σ (List Placement)

/-- **The store of configurations.**  Attaching and detaching do not wait for what follows. -/
structure ConfigStore (σ : Type) where
  find : (id : String) → Action σ (Option StoredConfig)
  list : Action σ (List StoredConfig)
  /-- Creates or replaces the configuration of the same id. -/
  ensure : PromoterConfig → Action σ Unit
  attach : PromoterConfig → Action σ Unit
  detach : PromoterConfig → Action σ Unit
  /-- Removes a configuration; it need not exist. -/
  delete : (id : String) → Action σ Unit

/-- Both stores over one state. -/
structure Backend (σ : Type) where
  storage : Storage σ
  configs : ConfigStore σ

end FailoverStorage

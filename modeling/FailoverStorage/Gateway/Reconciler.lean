import FailoverStorage.Endpoint.Recovery
import FailoverStorage.Gateway.Waiter

/-!
# The life of an endpoint

Endpoints are created, started, stopped, extended and deleted over two stores without a common
transaction.  So every operation reads what is deployed, compares it with what is asked for and
does what is missing; repeating an operation that failed half-way goes on where it stopped.

* `get` and `list` read, `create`, `start`, `stop` and `delete` run the life cycle, `addVolume` and
  `deleteVolume` change the volumes of a stopped endpoint.
* Volumes change without a check of versions: a writer in between is overwritten.
-/

namespace FailoverStorage

/-- **A gateway**: the stores it acts on and its patience. -/
structure Gateway (σ : Type) where
  backend : Backend σ
  waiter : Waiter

namespace Gateway

variable {σ : Type} {p : Protocol}

/-! ## Reading -/

/-- The endpoint that a stored configuration stands for, with its status. -/
def reconstruct (p : Protocol) (stored : StoredConfig) (deployed : DeployedState) :
    Except Error (Endpoint p) := do
  let e ← FailoverStorage.inPhase ("failed to decode promoter config " ++ stored.config.id)
    (Endpoint.ofPromoter p stored.config deployed.definition deployed.volumeDefinitions)
  return { e with
    status := .ofPlacements stored.attached deployed.definition deployed.group deployed.placements }

/-- The stored configuration of an endpoint. -/
def find (g : Gateway σ) (id : p.Identity) : Action σ (Option StoredConfig) :=
  (g.backend.configs.find (Protocol.configId id)).inPhase
    ("failed to fetch existing promoter config " ++ Protocol.configId id)

/-- The endpoint of a stored configuration, and what is deployed for it. -/
def load (g : Gateway σ) (p : Protocol) (stored : StoredConfig) (resource : String) :
    Action σ (Endpoint p × DeployedState) := do
  let deployed ← (g.backend.storage.deployed resource).inPhase
    ("failed to fetch deployed state of " ++ resource)
  let e ← Action.ofExcept (reconstruct p stored deployed)
  return (e, deployed)

/-- **The endpoint of an identity**, if it has a configuration. -/
def get (g : Gateway σ) (id : p.Identity) : Action σ (Option (Endpoint p)) := do
  match ← g.find id with
  | none => return none
  | some stored => return some (← g.load p stored (Protocol.resourceName id)).1

/-- The endpoints among stored configurations; those that cannot be read are passed over. -/
def endpointsOf (g : Gateway σ) (p : Protocol) : List StoredConfig → Action σ (List (Endpoint p))
  | [] => return []
  | stored :: rest =>
    match p.resourceOfConfigId stored.config.id with
    | none => g.endpointsOf p rest
    | some resource => do
      let deployed ← (g.backend.storage.deployed resource).getD {}
      let others ← g.endpointsOf p rest
      match reconstruct p stored deployed with
      | .ok e => return e :: others
      | .error _ => return others

/-- All stored configurations. -/
def configs (g : Gateway σ) : Action σ (List StoredConfig) :=
  g.backend.configs.list.inPhase "failed to list promoter configs"

/-- **All endpoints of a protocol.** -/
def list (g : Gateway σ) (p : Protocol) : Action σ (List (Endpoint p)) := do
  g.endpointsOf p (← g.configs)

/-! ## Starting and stopping -/

/-- Waits for a condition on a resource; `goal` names it in an error. -/
def await (g : Gateway σ) (resource goal : String) (done : List Placement → Bool) :
    Action σ Unit :=
  (g.waiter.waitUntil g.backend.storage resource done).inPhase
    ("failed to wait for " ++ resource ++ " to " ++ goal)

/-- **Starts an endpoint** and waits until it is in use. -/
def start (g : Gateway σ) (id : p.Identity) : Action σ (Option (Endpoint p)) := do
  match ← g.find id with
  | none => return none
  | some stored =>
    (g.backend.configs.attach stored.config).inPhase
      ("failed to attach promoter config " ++ stored.config.id)
    g.await (Protocol.resourceName id) "start" Waiter.anyInUse
    g.get id

/-- **Stops an endpoint** and waits until it is not in use. -/
def stop (g : Gateway σ) (id : p.Identity) : Action σ (Option (Endpoint p)) := do
  match ← g.find id with
  | none => return none
  | some stored =>
    (g.backend.configs.detach stored.config).inPhase
      ("failed to detach promoter config " ++ stored.config.id)
    g.await (Protocol.resourceName id) "stop" Waiter.noneInUse
    g.get id

/-! ## Creating and deleting -/

/-- What an endpoint asks of the storage controller. -/
def resourceRequest (e : Endpoint p) : ResourceRequest :=
  { name := e.resourceName, resourceGroup := e.resourceGroup, volumes := e.storageVolumes
    grossSize := e.grossSize, properties := e.properties }

/-- Refuses an endpoint whose protocol needs an agent that another configuration has. -/
def checkExclusive (g : Gateway σ) (id : p.Identity) : Action σ Unit :=
  match p.exclusiveKind with
  | none => return ()
  | some kind => do
    let others := (← g.configs).filter fun c =>
      c.config.id ≠ Protocol.configId id && c.config.hasKind kind
    match others with
    | [] => return ()
    | other :: _ =>
      throw (.conflict ("a " ++ p.label ++ " resource already exists under a different identity ("
        ++ other.config.id ++ ")"))

/-- Stores the configuration of an endpoint with the devices of its placements; `verb` names the
step in an error. -/
def store (g : Gateway σ) (e : Endpoint p) (placements : List Placement) (verb : String) :
    Action σ Unit := do
  let config ← Action.ofExcept (e.toPromoter placements)
  (g.backend.configs.ensure config).inPhase
    ("failed to " ++ verb ++ " promoter config " ++ config.id)

/-- **Creates an endpoint and starts it.**  One that exists already is returned as it is if it
matches the request, and is a conflict if not. -/
def create (g : Gateway σ) (requested : Endpoint p) : Action σ (Endpoint p) := do
  let requested := requested.fillDefaults
  Action.ofExcept requested.validate
  g.checkExclusive requested.identity
  match ← g.find requested.identity with
  | some stored =>
    let (existing, _) ← g.load p stored requested.resourceName
    if existing.agreesWith requested then return existing
    else throw (.conflict ("resource " ++ Protocol.identityText requested.identity
      ++ " already exists with incompatible config"))
  | none =>
    let deployment ← (g.backend.storage.ensure (resourceRequest requested) false).inPhase
      ("failed to create resource " ++ requested.resourceName)
    g.store requested deployment.placements "create"
    match ← g.start requested.identity with
    | some e => return e
    | none =>
      throw (.internal ("promoter config " ++ requested.configId ++ " vanished after creation"))

/-- **Deletes an endpoint**: its configuration, then, once it is not in use, its resource.  It need
not exist. -/
def delete (g : Gateway σ) (id : p.Identity) : Action σ Unit := do
  let resource := Protocol.resourceName id
  (g.backend.configs.delete (Protocol.configId id)).inPhase
    ("failed to delete promoter config " ++ Protocol.configId id)
  g.await resource "stop" Waiter.noneInUse
  ((g.backend.storage.deleteResource resource).orAbsent).inPhase
    ("failed to delete resource " ++ resource)

/-! ## Volumes -/

/-- The placements of an endpoint that is to have a volume: as they are if it has the volume, else
as they are after the volume was added to a stopped endpoint.  Errors name the identity under which
the endpoint was asked for; the stored one may differ where two identities share a resource. -/
def withVolume (g : Gateway σ) (id : p.Identity) (e : Endpoint p) (deployed : DeployedState)
    (v : Volume) : Action σ (Endpoint p × List Placement) :=
  match e.volumes.find? (·.number = v.number) with
  | some existing =>
    if existing.sizeKib = v.sizeKib then return (e, deployed.placements)
    else throw (.conflict ("existing volume has differing size: volume "
      ++ Text.decimal v.number.toNat ++ " of " ++ Protocol.identityText id ++ " is "
      ++ Text.decimal existing.sizeKib.toNat ++ " KiB, requested "
      ++ Text.decimal v.sizeKib.toNat ++ " KiB"))
  | none =>
    if e.status.service = .started then
      throw (.conflict "cannot add volume while service is running")
    else do
      let e := { e with volumes := e.volumes ++ [v] }.fillDefaults
      Action.ofExcept e.validate
      let deployment ← (g.backend.storage.ensure (resourceRequest e) true).inPhase
        ("failed to reconcile resource " ++ Protocol.resourceName id)
      return (e, deployment.placements)

/-- **Adds a volume to a stopped endpoint.**  A volume that is there with the same size is only
stored again. -/
def addVolume (g : Gateway σ) (id : p.Identity) (v : Volume) :
    Action σ (Option (Endpoint p)) := do
  Action.ofExcept (Volume.check [v])
  match ← g.find id with
  | none => return none
  | some stored =>
    let (e, deployed) ← g.load p stored (Protocol.resourceName id)
    let (e, placements) ← g.withVolume id e deployed v
    g.store e placements "update"
    g.get id

/-- A placement without one of its volumes. -/
def withoutVolume (number : UInt32) (placement : Placement) : Placement :=
  { placement with volumes := placement.volumes.filter (·.number ≠ number) }

/-- **Removes a volume from a stopped endpoint.** -/
def deleteVolume (g : Gateway σ) (id : p.Identity) (number : UInt32) :
    Action σ (Option (Endpoint p)) := do
  if number = Volume.privateNumber then
    throw (.validation "volume 0 is reserved")
  match ← g.find id with
  | none => return none
  | some stored =>
    let resource := Protocol.resourceName id
    let (e, deployed) ← g.load p stored resource
    if e.status.service = .started then
      throw (.conflict "cannot delete volume while service is running")
    ((g.backend.storage.deleteVolume resource number).orAbsent).inPhase
      ("failed to delete volume " ++ Text.decimal number.toNat ++ " of " ++ resource)
    g.store { e with volumes := e.volumes.filter (·.number ≠ number) }
      (deployed.placements.map (withoutVolume number)) "update"
    g.get id

end Gateway

end FailoverStorage

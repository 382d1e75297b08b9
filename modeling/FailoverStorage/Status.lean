import FailoverStorage.Storage.Deployment
import FailoverStorage.Volume.Basic

/-!
# Status of an endpoint

What the nodes report about a resource is folded into one state of the service and one state of
each data volume.  A service is started where some node has the resource in use.  Where none has,
it depends on whether the cluster is set to run it: if so it is starting, else it is stopped.  A
volume is well if enough replicas of it are up to date.
-/

namespace FailoverStorage

/-- The state of the service that an endpoint provides. -/
inductive ServiceState where
  | stopped
  | starting
  | started
  | unknown
  deriving DecidableEq, Inhabited

/-- The name of a service state. -/
def ServiceState.name : ServiceState → String
  | stopped => "stopped"
  | starting => "starting"
  | started => "started"
  | unknown => "unknown"

/-- The replication health of a volume. -/
inductive VolumeHealth where
  | ok
  | degraded
  | unknown
  deriving DecidableEq, Inhabited

/-- The name of a health. -/
def VolumeHealth.name : VolumeHealth → String
  | ok => "ok"
  | degraded => "degraded"
  | unknown => "unknown"

/-- The health of one volume. -/
structure VolumeStatus where
  number : UInt32
  health : VolumeHealth
  deriving DecidableEq, Inhabited

/-- **The status of an endpoint**, computed when it is read and never stored. -/
structure Status where
  service : ServiceState := .unknown
  /-- The node on which the resource is promoted. -/
  primary : Option String := none
  /-- The nodes that hold the resource. -/
  nodes : List String := []
  volumes : List VolumeStatus := []
  deriving DecidableEq, Inhabited

namespace Status

/-! ## The service -/

/-- The state of the service, `attached` being whether the cluster is set to run it. -/
def serviceState (attached : Bool) (placements : List Placement) : ServiceState :=
  if placements.any (·.isInUse) then .started
  else if placements.isEmpty || placements.any (·.inUse.isNone) then .unknown
  else if attached then .starting
  else .stopped

/-! ## The volumes -/

/-- Adds a number to an ascending list unless it is there. -/
def insertNumber (n : UInt32) : List UInt32 → List UInt32
  | [] => [n]
  | m :: rest =>
    if n < m then n :: m :: rest
    else if n = m then m :: rest
    else m :: insertNumber n rest

/-- The numbers of the data volumes that occur in some placement, each once, ascending. -/
def volumeNumbers (placements : List Placement) : List UInt32 :=
  ((placements.flatMap fun p => p.volumes.map (·.number)).filter (· ≠ Volume.privateNumber)).foldr
    insertNumber []

/-- The states of volume `number` on the nodes that have a disk for it. -/
def diskStates (number : UInt32) (placements : List Placement) : List DiskState :=
  (placements.filter (!·.diskless)).filterMap fun p =>
    (p.volumes.find? (·.number = number)).map (·.diskState)

/-- **The health of a volume**: well if at least as many replicas are up to date as the group asks
for, unknown if the group is not known or no replica reports a state. -/
def volumeHealth (number : UInt32) (group : Option ResourceGroup) (placements : List Placement) :
    VolumeHealth :=
  match group with
  | none => .unknown
  | some group =>
    let states := diskStates number placements
    if states.all (· = .unknown) then .unknown
    else if group.replicas ≤ states.countP (· = .upToDate) then .ok
    else .degraded

/-! ## The whole status -/

/-- **The status of a resource.**  Without a definition nothing is known. -/
def ofPlacements (attached : Bool) (definition : Option ResourceDefinition)
    (group : Option ResourceGroup) (placements : List Placement) : Status :=
  if definition.isNone then {}
  else
    { service := serviceState attached placements
      primary := (placements.find? (·.isInUse)).map (·.nodeName)
      nodes := placements.map (·.nodeName)
      volumes := (volumeNumbers placements).map fun n =>
        { number := n, health := volumeHealth n group placements } }

end Status

end FailoverStorage

import FailoverStorage.Cluster.Simulation
import FailoverStorage.CommandLine.Command
import FailoverStorage.CommandLine.Report
import FailoverStorage.CommandLine.Table
import FailoverStorage.Controller.Backend
import FailoverStorage.Endpoint.Json
import FailoverStorage.Gateway.Reconciler
import FailoverStorage.Json.Writer
import FailoverStorage.Net.Address
import FailoverStorage.Volume.Size
import FailoverStorage.Yaml.Writer

/-!
# Running commands

A command acts on a gateway and reports.  A command on several endpoints tries every one of them,
whatever becomes of the others.

* `execute` runs a command on a gateway.
* `run` connects a gateway first: to a simulated cluster, or to a controller.
-/

namespace FailoverStorage.CommandLine

open Text

variable {σ : Type} {p : Protocol}

/-! ## Reports of actions -/

/-- Runs an action and reports its outcome. -/
def report (step : Option String) (action : Action σ String) : StateM σ Report :=
  return Report.ofResult step (← action.run)

/-- **Runs an operation on every endpoint that is named.**  A failure does not keep it from the
others. -/
def forEachTarget (p : Protocol) (verb : String) (operation : p.Identity → Action σ String) :
    (ids : List String) → StateM σ Report
  | [] => return {}
  | id :: rest => do
    let first ← report (some ("failed to " ++ verb ++ " " ++ id)) (do
      operation (← Action.ofExcept (p.parseIdentity id)))
    return first ++ (← forEachTarget p verb operation rest)

/-! ## New endpoints -/

/-- Service IPs, each perhaps between blanks. -/
def readIps (raw : List String) : Except Error (List ServiceIp) :=
  raw.mapM fun ip => ServiceIp.parse (String.ofList (trim ip.toList))

/-- Service IPs separated by commas. -/
def readIpList (raw : String) : Except Error (List ServiceIp) :=
  readIps ((splitAll ',' raw.toList).map String.ofList)

/-- Volumes of the given sizes, numbered from `first` on. -/
def readVolumes (first : Nat) : (sizes : List String) → Except Error (List Volume)
  | [] => return []
  | size :: rest => do
    let sizeKib ← Size.parse size
    return { number := .ofNat first, sizeKib } :: (← readVolumes (first + 1) rest)

/-- A new iSCSI target. -/
def newTarget (e : NewEndpoint) (username password : String) (initiators : List String) :
    Except Error (Endpoint .iscsi) := do
  let iqn ← Iqn.parse e.identity
  let serviceIps ← readIpList e.serviceIps
  let volumes ← readVolumes 1 e.sizes
  let allowedInitiators ← initiators.mapM Iqn.parse
  let settings : IscsiSettings := { username, password, allowedInitiators }
  return { identity := iqn, serviceIps, settings, volumes, resourceGroup := e.resourceGroup
           grossSize := e.gross }

/-- A new NFS export.  It has one service IP, and its name is checked with the endpoint. -/
def newExport (e : NewEndpoint) (exportPath : String) (allowed : List String) :
    Except Error (Endpoint .nfs) := do
  let ip ← ServiceIp.parse e.serviceIps
  let volumes ← readVolumes 1 e.sizes
  let settings : NfsSettings := { exportPath, allowedIps := ← readIps allowed }
  return { identity := e.identity, serviceIps := [ip], settings, volumes
           resourceGroup := e.resourceGroup, grossSize := e.gross }

/-- A new NVMe-oF subsystem. -/
def newSubsystem (e : NewEndpoint) (port : UInt16) : Except Error (Endpoint .nvmeof) := do
  let nqn ← Nqn.parse e.identity
  let serviceIps ← readIpList e.serviceIps
  let volumes ← readVolumes 1 e.sizes
  let settings : NvmeSettings := { port }
  return { identity := nqn, serviceIps, settings, volumes, resourceGroup := e.resourceGroup
           grossSize := e.gross }

/-- Creates an endpoint, unless the command line does not describe one. -/
def create (g : Gateway σ) (requested : Except Error (Endpoint p)) : StateM σ Report :=
  match requested with
  | .error cause => return { failures := [{ cause }] }
  | .ok e =>
    report (some ("failed to create " ++ p.label ++ " " ++ Protocol.identityText e.identity)) do
      let created ← g.create e
      return "Created " ++ p.label ++ " " ++ Protocol.identityText created.identity ++ " ("
        ++ created.status.service.name ++ ")\n"

/-! ## Existing endpoints -/

/-- Endpoints in a format. -/
def formatted (es : List (Endpoint p)) : Format → String
  | .table => table es
  | .json => Json.pretty 0 (.array (es.map (·.toJson))) ++ "\n"
  | .yaml => Yaml.write (.array (es.map (·.toJson)))

/-- An endpoint that must exist. -/
def existing (id : p.Identity) : Option (Endpoint p) → Action σ (Endpoint p)
  | some e => return e
  | none => throw (.notFound p.label (Protocol.identityText id))

/-- A line on an endpoint. -/
def done (p : Protocol) (what : String) (id : String) : String :=
  what ++ " " ++ p.label ++ " " ++ id ++ "\n"

/-- Carries out a task on the endpoints of a protocol. -/
def perform (g : Gateway σ) (p : Protocol) : Task → StateM σ Report
  | .list format =>
    report (some ("failed to list " ++ p.label ++ " endpoints")) do
      return formatted (← g.list p) format
  | .start ids => forEachTarget p "start" (fun id => do
      let _ ← existing id (← g.start id)
      return done p "Started" (Protocol.identityText id)) ids
  | .stop ids => forEachTarget p "stop" (fun id => do
      let _ ← existing id (← g.stop id)
      return done p "Stopped" (Protocol.identityText id)) ids
  | .delete ids => forEachTarget p "delete" (fun id => do
      g.delete id
      return done p "Deleted" (Protocol.identityText id)) ids
  | .addVolume id number size fileSystem =>
    report (some ("failed to add volume " ++ decimal number.toNat ++ " to " ++ id)) do
      let identity ← Action.ofExcept (p.parseIdentity id)
      let sizeKib ← Action.ofExcept (Size.parse size)
      let _ ← existing identity (← g.addVolume identity { number, sizeKib, fileSystem })
      return done p ("Added volume " ++ decimal number.toNat ++ " to") id
  | .deleteVolume id number =>
    report (some ("failed to delete volume " ++ decimal number.toNat ++ " of " ++ id)) do
      let identity ← Action.ofExcept (p.parseIdentity id)
      let _ ← existing identity (← g.deleteVolume identity number)
      return done p ("Deleted volume " ++ decimal number.toNat ++ " of") id

/-! ## Commands -/

/-- **Runs a command on a gateway.** -/
def execute (g : Gateway σ) : Command → StateM σ Report
  | .createTarget e username password initiators =>
    create g (newTarget e username password initiators)
  | .createExport e exportPath allowed => create g (newExport e exportPath allowed)
  | .createSubsystem e port => create g (newSubsystem e port)
  | .manage p task => perform g p task
  | .serve address =>
    if isSocketAddress address.toList then return { serveAt := some address }
    else
      let cause : Error :=
        .configuration "Invalid REST API address: invalid socket address syntax"
      return { failures := [{ cause }] }

/-- How long commands wait. -/
def Settings.waiter (s : Settings) : Waiter where
  timeoutMs := 1000 * s.waitTimeoutS
  intervalMs := s.pollIntervalMs

/-- **Connects a gateway and runs a command on it.** -/
def run (transport : Transport σ) (settings : Settings) (command : Command) : StateM σ Report := do
  let failed (cause : Error) : Report :=
    { failures := [{ step := some "failed to initialize gateway", cause }] }
  let waiter := settings.waiter
  match waiter.check with
  | .error cause => return failed cause
  | .ok () =>
    if settings.standalone then
      return ((execute { backend := Cluster.backend, waiter } command).run {}).1
    else
      match ← (Controller.connect transport (Controller.addresses settings.controllers)).run with
      | .error cause => return failed cause
      | .ok c => execute { backend := c.backend, waiter } command

/-- The line that tells the version. -/
def versionLine : String := "ha-storage-gateway 0.2.0\n"

end FailoverStorage.CommandLine

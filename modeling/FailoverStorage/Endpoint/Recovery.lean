import FailoverStorage.Endpoint.Configuration
import FailoverStorage.Text.Blank

/-!
# From configurations back to endpoints

An endpoint is not stored: whoever asks for it gets what its configuration says, together with the
definition of its resource and of its volumes.  Agents tell the identity, the addresses and the
numbers of the volumes; volume definitions tell the sizes; properties of the definition tell what
no agent can.  A configuration whose id and resource do not belong together is refused.
-/

namespace FailoverStorage.Endpoint

open Text

/-! ## What all protocols share -/

/-- The group of a resource; the usual one if the definition names none. -/
def groupOf (definition : Option ResourceDefinition) : String :=
  ((definition.map (·.resourceGroup)).filter (!·.isEmpty)).getD defaultResourceGroup

/-- Whether the data volumes were sized gross. -/
def grossSizeOf (volumeDefinitions : List VolumeDefinition) : Bool :=
  volumeDefinitions.any fun d => d.number ≠ Volume.privateNumber && d.gross

/-- The size of a volume; 0, which no request has, without a definition of it. -/
def sizeOf (volumeDefinitions : List VolumeDefinition) (number : UInt32) : UInt64 :=
  ((volumeDefinitions.find? (·.number = number)).map (·.sizeKib)).getD 0

/-- The data volumes with the given numbers and file systems, in order of number. -/
def volumesOf (numbers : List (UInt32 × Option String))
    (volumeDefinitions : List VolumeDefinition) : List Volume :=
  Volume.sort ((numbers.filter (·.1 ≠ Volume.privateNumber)).map fun (number, fileSystem) =>
    { number, sizeKib := sizeOf volumeDefinitions number, fileSystem })

/-- Checks that a configuration has the id that belongs to an identity. -/
def checkConfigId {p : Protocol} (c : PromoterConfig) (identity : p.Identity) :
    Except Error Unit :=
  if c.id = Protocol.configId identity then .ok ()
  else .error (.promoter ("config id '" ++ c.id ++ "' does not match " ++ p.label ++ " resource '"
    ++ Protocol.configId identity ++ "'"))

/-- Reports an error in a stored text as an error of the configuration that holds it. -/
def asPromoterError {α : Type} (place : String) : Except Error α → Except Error α
  | .ok a => .ok a
  | .error e => .error (.promoter (place ++ e.message))

/-- The first agent of a kind, which `what` describes. -/
def findAgent (c : PromoterConfig) (agents : List Agent) (kind what : String) :
    Except Error Agent :=
  match agents.find? (·.kind = kind) with
  | some a => .ok a
  | none => .error (.promoter ("config '" ++ c.id ++ "' has no " ++ what ++ " agent"))

/-- The numbers that the agents of a kind carry in an attribute. -/
def numbersOf (agents : List Agent) (kind key : String) :
    Except Error (List (UInt32 × Option String)) :=
  (agents.filter (·.kind = kind)).mapM fun a => do
    return (← a.requireNumber word32? key, none)

/-! ## iSCSI -/

/-- The target that a configuration stands for. -/
def targetOf (c : PromoterConfig) (definition : Option ResourceDefinition)
    (volumeDefinitions : List VolumeDefinition) : Except Error (Endpoint .iscsi) := do
  let (resource, { start, .. }) ← c.resource
  let target ← findAgent c start Agent.iscsiTargetKind "iSCSI target"
  let iqn ← asPromoterError "" (Iqn.parse (← target.require "iqn"))
  if iqn.resourceName ≠ resource then
    throw (.promoter ("target " ++ iqn.text ++ " does not belong to resource '" ++ resource ++ "'"))
  checkConfigId (p := .iscsi) c iqn
  let allowedInitiators ← asPromoterError ""
    ((words ((target.get? "allowed_initiators").getD "").toList).mapM fun w =>
      Iqn.parse (String.ofList w))
  let numbers ← numbersOf start Agent.logicalUnitKind "lun"
  let serviceIps ← Agent.serviceIps start
  let settings : IscsiSettings :=
    { username := (target.get? "incoming_username").getD ""
      password := (target.get? "incoming_password").getD ""
      allowedInitiators }
  return { identity := iqn, serviceIps, settings
           volumes := volumesOf numbers volumeDefinitions
           resourceGroup := groupOf definition
           grossSize := grossSizeOf volumeDefinitions }

/-! ## NFS -/

/-- The numbers and file systems of the volumes that agents mount for export. -/
def mountedVolumes : List Agent → Except Error (List (UInt32 × Option String))
  | [] => .ok []
  | a :: rest =>
    match (dropStart "fs_".toList a.name.toList).bind fun n => word32? (String.ofList n) with
    | none => mountedVolumes rest
    | some number => do
      let fileSystem ← a.require "fstype"
      return (number, some fileSystem) :: (← mountedVolumes rest)

/-- The export path: as the definition records it, or else as the first export of the first volume
shows it, or else the default. -/
def exportPathOf (name : String) (recorded : Option String) (exports : List Agent)
    (volumes : List Volume) : Except Error String :=
  match recorded, exports, volumes with
  | some path, _, _ => .ok path
  | none, a :: _, v :: _ => do
    let directory ← a.require "directory"
    match (dropStart exportRoot.toList directory.toList).bind
        (dropEnding ("/vol" ++ decimal v.number.toNat).toList) with
    | some path => return String.ofList path
    | none => throw (.promoter ("export directory '" ++ directory ++ "' is outside " ++ exportRoot))
  | none, _, _ => .ok (defaultExportPath name)

/-- The networks that may mount: as the definition records them, or else as the exports of the
first volume show them; everyone if there are none. -/
def allowedIpsOf (recorded : Option String) (exports : List Agent) (volumes : List Volume) :
    Except Error (List ServiceIp) := do
  let found ← match recorded, volumes with
    | some list, _ =>
      ((splitAll ',' list.toList).filter (!·.isEmpty)).mapM fun ip =>
        asPromoterError ("property " ++ allowedIpsProperty ++ ": ")
          (ServiceIp.parse (String.ofList ip))
    | none, v :: _ =>
      let start := ("export_" ++ decimal v.number.toNat ++ "_").toList
      (exports.filter fun a => (dropStart start a.name.toList).isSome).mapM fun a => do
        let ip ← a.require "allowed_ip"
        asPromoterError ("agent '" ++ a.name ++ "': ") (ServiceIp.parse ip)
    | none, [] => .ok []
  return if found.isEmpty then [ServiceIp.anyV4] else found

/-- The export that a configuration stands for. -/
def exportOf (c : PromoterConfig) (definition : Option ResourceDefinition)
    (volumeDefinitions : List VolumeDefinition) : Except Error (Endpoint .nfs) := do
  let (name, { start, .. }) ← c.resource
  checkConfigId (p := .nfs) c name
  let _ ← findAgent c start Agent.nfsServerKind "NFS server"
  let serviceIps ← Agent.serviceIps start
  let numbers ← mountedVolumes (start.filter (·.kind = Agent.fileSystemKind))
  let volumes := volumesOf numbers volumeDefinitions
  let exports := start.filter (·.kind = Agent.exportKind)
  let recorded (key : String) := definition.bind fun d => d.properties.find? key
  let exportPath ← exportPathOf name (recorded exportPathProperty) exports volumes
  let allowedIps ← allowedIpsOf (recorded allowedIpsProperty) exports volumes
  let settings : NfsSettings := { exportPath, allowedIps }
  return { identity := name, serviceIps, settings, volumes
           resourceGroup := groupOf definition
           grossSize := grossSizeOf volumeDefinitions }

/-! ## NVMe-oF -/

/-- The subsystem that a configuration stands for. -/
def subsystemOf (c : PromoterConfig) (definition : Option ResourceDefinition)
    (volumeDefinitions : List VolumeDefinition) : Except Error (Endpoint .nvmeof) := do
  let (resource, { start, .. }) ← c.resource
  let subsystem ← findAgent c start Agent.subsystemKind "NVMe-oF subsystem"
  let nqn ← asPromoterError "" (Nqn.parse (← subsystem.require "nqn"))
  if nqn.resourceName ≠ resource then
    throw (.promoter ("subsystem " ++ nqn.text ++ " does not belong to resource '" ++ resource
      ++ "'"))
  checkConfigId (p := .nvmeof) c nqn
  let portAgent ← findAgent c start Agent.nvmePortKind "NVMe-oF port"
  let port ← portAgent.requireNumber word16? "svcid"
  let numbers ← numbersOf start Agent.namespaceKind "namespace_id"
  let serviceIps ← Agent.serviceIps start
  let settings : NvmeSettings := { port }
  return { identity := nqn, serviceIps, settings
           volumes := volumesOf numbers volumeDefinitions
           resourceGroup := groupOf definition
           grossSize := grossSizeOf volumeDefinitions }

/-! ## All protocols -/

/-- **The endpoint that a configuration stands for**, given what is deployed. -/
def ofPromoter : (p : Protocol) → PromoterConfig → Option ResourceDefinition →
    List VolumeDefinition → Except Error (Endpoint p)
  | .iscsi => targetOf
  | .nfs => exportOf
  | .nvmeof => subsystemOf

end FailoverStorage.Endpoint

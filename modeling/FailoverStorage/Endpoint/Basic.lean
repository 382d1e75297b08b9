import FailoverStorage.Endpoint.Protocol
import FailoverStorage.Status
import FailoverStorage.Volume.Basic

/-!
# Endpoints

An endpoint is what a user asks for and gets back: an identity, the addresses it is reached at,
protocol settings and volumes.  `fillDefaults` settles everything that a request leaves open, and
`validate` checks the result.  Two endpoints match if they agree in everything but their status.
-/

namespace FailoverStorage

open Text

/-- **An endpoint of a protocol.** -/
structure Endpoint (p : Protocol) where
  identity : p.Identity
  serviceIps : List ServiceIp
  settings : p.Settings
  volumes : List Volume := []
  /-- The group that places the volumes; the usual one if empty. -/
  resourceGroup : String := ""
  /-- Whether the sizes of the volumes include the metadata of the replication. -/
  grossSize : Bool := false
  /-- What the cluster reports; not part of the request. -/
  status : Status := {}
  deriving DecidableEq

namespace Endpoint

variable {p : Protocol}

/-! ## Names -/

/-- The storage resource behind the endpoint. -/
def resourceName (e : Endpoint p) : String := Protocol.resourceName e.identity

/-- The id of the endpoint's configuration. -/
def configId (e : Endpoint p) : String := Protocol.configId e.identity

/-! ## Defaults -/

/-- The file system of an exported volume that asks for none. -/
def defaultFileSystem : String := "ext4"

/-- The port of a subsystem that asks for none. -/
def defaultPort : UInt16 := 4420

/-- The export path of an export that asks for none. -/
def defaultExportPath (name : String) : String := "/" ++ name

/-- Settles the settings that are left open. -/
def fillSettings : {p : Protocol} → p.Identity → p.Settings → p.Settings
  | .iscsi, _, s => s
  | .nfs, name, s =>
    let s : NfsSettings := s
    { exportPath := if s.exportPath.isEmpty then defaultExportPath name else s.exportPath
      allowedIps := if s.allowedIps.isEmpty then [ServiceIp.anyV4] else s.allowedIps : NfsSettings }
  | .nvmeof, _, s =>
    let s : NvmeSettings := s
    { port := if s.port = 0 then defaultPort else s.port : NvmeSettings }

/-- Settles the file system of a volume: exported files need one, exported devices have none. -/
def fillVolume (p : Protocol) (v : Volume) : Volume :=
  match p with
  | .nfs => { v with fileSystem := some (v.fileSystem.getD defaultFileSystem) }
  | .iscsi | .nvmeof => { v with fileSystem := none }

/-- **Settles everything that a request leaves open**, and puts the volumes in order. -/
def fillDefaults (e : Endpoint p) : Endpoint p :=
  { e with
    settings := fillSettings e.identity e.settings
    volumes := Volume.sort (e.volumes.map (fillVolume p))
    resourceGroup := if e.resourceGroup.isEmpty then defaultResourceGroup else e.resourceGroup }

/-! ## Validation -/

/-- Whether an export path is absolute and has no empty, `.` or `..` component. -/
def isNormalPath (path : List Char) : Bool :=
  path.head? = some '/' && !occurs "//".toList path
    && (splitAll '/' path).all fun c => c ≠ "..".toList && c ≠ ".".toList

/-- Checks the number of service IPs and the settings. -/
def checkSettings : {p : Protocol} → List ServiceIp → p.Settings → Except Error Unit
  | .iscsi, ips, s =>
    let s : IscsiSettings := s
    if ips.isEmpty then .error (.validation "iSCSI target needs at least one service IP")
    else if s.username.isEmpty ≠ s.password.isEmpty then
      .error (.validation "CHAP username and password must be set together")
    else .ok ()
  | .nfs, ips, s =>
    let path := (s : NfsSettings).exportPath
    if ips.length ≠ 1 then
      .error (.validation ("NFS export needs exactly one service IP, got " ++ decimal ips.length))
    else if !isNormalPath path.toList then
      .error (.validation ("export path '" ++ path ++ "' must be an absolute, normalized path"))
    else if path ≠ "/" ∧ path.toList.getLast? = some '/' then
      .error (.validation ("export path '" ++ path ++ "' must not end with '/'"))
    else .ok ()
  | .nvmeof, ips, s =>
    if ips.isEmpty then .error (.validation "NVMe-oF subsystem needs at least one service IP")
    else if (s : NvmeSettings).port = 0 then .error (.validation "port must not be 0")
    else .ok ()

/-- **Checks an endpoint**: its name, its addresses and settings, its volumes. -/
def validate (e : Endpoint p) : Except Error Unit := do
  ResourceName.check e.resourceName
  checkSettings e.serviceIps e.settings
  Volume.check e.volumes

/-! ## The storage behind an endpoint -/

/-- All volumes of the storage resource, the cluster-private one first. -/
def storageVolumes (e : Endpoint p) : List Volume := Volume.clusterPrivate :: e.volumes

/-- The property that keeps the export path. -/
def exportPathProperty : String := "Aux/gateway/nfs-export-path"

/-- The property that keeps the networks that may mount. -/
def allowedIpsProperty : String := "Aux/gateway/nfs-allowed-ips"

/-- **The settings that are kept as properties of the resource definition**, because they must
outlive the volumes that carry them. -/
def properties : {p : Protocol} → Endpoint p → SortedMap String String
  | .nfs, e =>
    let s : NfsSettings := e.settings
    .ofList [(exportPathProperty, s.exportPath),
      (allowedIpsProperty, joinWith "," (s.allowedIps.map ServiceIp.text))]
  | .iscsi, _ | .nvmeof, _ => .empty

/-! ## Comparison -/

/-- Whether two endpoints agree in everything but their status. -/
def agreesWith (a b : Endpoint p) : Bool := { a with status := {} } = { b with status := {} }

end Endpoint

end FailoverStorage

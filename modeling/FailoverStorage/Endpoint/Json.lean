import FailoverStorage.Endpoint.Basic
import FailoverStorage.Json.Decoder

/-!
# Endpoints in JSON

Requests and answers carry endpoints as JSON objects.  A request must name the identity and the
service IPs; everything else has a default.  An answer names every field, except for texts that are
not there.
-/

namespace FailoverStorage

open Json Json.Decode

/-! ## Parts of endpoints -/

/-- A service IP in JSON. -/
def ServiceIp.toJson (ip : ServiceIp) : Json := .text ip.text

/-- Members for a text that is left out if it is not there. -/
def optionalMember (key : String) (value : Option String) : List (String × Json) :=
  match value with
  | some s => [(key, .text s)]
  | none => []

/-- A volume in JSON. -/
def Volume.toJson (v : Volume) : Json :=
  .object ([("number", .ofNat v.number.toNat), ("size_kib", .ofNat v.sizeKib.toNat)]
    ++ optionalMember "file_system" v.fileSystem)

/-- A volume of which some fields have been read. -/
structure Volume.Draft where
  number : Option UInt32 := none
  sizeKib : Option UInt64 := none
  fileSystem : Option String := none

/-- Decodes a volume. -/
def Volume.decode : Decoder Volume :=
  record [field "number" word32 fun (d : Volume.Draft) n => { d with number := some n },
      field "size_kib" word64 fun d n => { d with sizeKib := some n },
      field "file_system" (optional text) fun d s => { d with fileSystem := s }] {}
    fun d => do return { number := ← d.number, sizeKib := ← d.sizeKib, fileSystem := d.fileSystem }

/-- The names of the states of a service. -/
def ServiceState.named : List (String × ServiceState) :=
  [ServiceState.stopped, .starting, .started, .unknown].map fun s => (s.name, s)

/-- The names of the healths of a volume. -/
def VolumeHealth.named : List (String × VolumeHealth) :=
  [VolumeHealth.ok, .degraded, .unknown].map fun s => (s.name, s)

/-- The status of a volume in JSON. -/
def VolumeStatus.toJson (v : VolumeStatus) : Json :=
  .object [("number", .ofNat v.number.toNat), ("state", .text v.health.name)]

/-- Decodes the status of a volume. -/
def VolumeStatus.decode : Decoder VolumeStatus :=
  record [field "number" word32 fun (d : Option UInt32 × Option VolumeHealth) n => (some n, d.2),
      field "state" (choice VolumeHealth.named) fun d h => (d.1, some h)] (none, none)
    fun d => do return { number := ← d.1, health := ← d.2 }

/-- A status in JSON. -/
def Status.toJson (s : Status) : Json :=
  .object ([("service", .text s.service.name)] ++ optionalMember "primary" s.primary
    ++ [("nodes", .texts s.nodes), ("volumes", .array (s.volumes.map VolumeStatus.toJson))])

/-- Decodes a status; the state of the service must be there. -/
def Status.decode : Decoder Status :=
  record [field "service" (choice ServiceState.named) fun (d : Option ServiceState × Status) s =>
        (some s, d.2),
      field "primary" (optional text) fun d s => (d.1, { d.2 with primary := s }),
      field "nodes" (list text) fun d ns => (d.1, { d.2 with nodes := ns }),
      field "volumes" (list VolumeStatus.decode) fun d vs => (d.1, { d.2 with volumes := vs })]
    (none, {})
    fun d => d.1.map fun s => { d.2 with service := s }

/-! ## Whole endpoints -/

namespace Protocol

/-- The name of the field that holds an identity. -/
def identityField : Protocol → String
  | iscsi => "iqn"
  | nfs => "name"
  | nvmeof => "nqn"

/-- Decodes an identity.  Qualified names are checked here, plain ones with the endpoint. -/
def decodeIdentity : (p : Protocol) → Decoder p.Identity
  | iscsi => parsed Iqn.parse
  | nfs => text
  | nvmeof => parsed Nqn.parse

/-- The members for the settings of an endpoint. -/
def settingsMembers : {p : Protocol} → p.Settings → List (String × Json)
  | iscsi, s =>
    let s : IscsiSettings := s
    [("username", .text s.username), ("password", .text s.password),
      ("allowed_initiators", .texts (s.allowedInitiators.map Iqn.text))]
  | nfs, s =>
    let s : NfsSettings := s
    [("export_path", .text s.exportPath),
      ("allowed_ips", .array (s.allowedIps.map ServiceIp.toJson))]
  | nvmeof, s => [("port", .ofNat (s : NvmeSettings).port.toNat)]

/-- The fields for the settings of an endpoint. -/
def settingsFields : (p : Protocol) → List (RecordField p.Settings)
  | iscsi =>
    [field "username" text fun (s : IscsiSettings) t => { s with username := t },
      field "password" text fun (s : IscsiSettings) t => { s with password := t },
      field "allowed_initiators" (list (parsed Iqn.parse)) fun (s : IscsiSettings) l =>
        { s with allowedInitiators := l }]
  | nfs =>
    [field "export_path" text fun (s : NfsSettings) t => { s with exportPath := t },
      field "allowed_ips" (list (parsed ServiceIp.parse)) fun (s : NfsSettings) l =>
        { s with allowedIps := l }]
  | nvmeof => [field "port" word16 fun (s : NvmeSettings) n => { s with port := n }]

end Protocol

namespace Endpoint

variable {p : Protocol}

/-- **An endpoint in JSON.** -/
def toJson (e : Endpoint p) : Json :=
  .object ([(p.identityField, .text (Protocol.identityText e.identity)),
      ("service_ips", .array (e.serviceIps.map ServiceIp.toJson))]
    ++ Protocol.settingsMembers e.settings
    ++ [("volumes", .array (e.volumes.map Volume.toJson)),
      ("resource_group", .text e.resourceGroup), ("gross_size", .boolean e.grossSize),
      ("status", e.status.toJson)])

/-- An endpoint of which some fields have been read. -/
structure Draft (p : Protocol) where
  identity : Option p.Identity := none
  serviceIps : Option (List ServiceIp) := none
  settings : p.Settings
  volumes : List Volume := []
  resourceGroup : String := ""
  grossSize : Bool := false
  status : Status := {}

/-- A field of the settings as a field of the endpoint. -/
def settingsField (f : RecordField p.Settings) : RecordField (Draft p) :=
  { name := f.name, set := fun d v => do return { d with settings := ← f.set d.settings v } }

/-- **Decodes an endpoint.** -/
def decode (p : Protocol) : Decoder (Endpoint p) :=
  record ([field p.identityField p.decodeIdentity fun (d : Draft p) i =>
        { d with identity := some i },
      field "service_ips" (list (parsed ServiceIp.parse)) fun d l =>
        { d with serviceIps := some l }]
    ++ p.settingsFields.map settingsField
    ++ [field "volumes" (list Volume.decode) fun d l => { d with volumes := l },
      field "resource_group" text fun d s => { d with resourceGroup := s },
      field "gross_size" boolean fun d b => { d with grossSize := b },
      field "status" Status.decode fun d s => { d with status := s }])
    { settings := p.noSettings }
    fun d => do
      return { identity := ← d.identity, serviceIps := ← d.serviceIps, settings := d.settings
               volumes := d.volumes, resourceGroup := d.resourceGroup, grossSize := d.grossSize
               status := d.status }

end Endpoint

end FailoverStorage

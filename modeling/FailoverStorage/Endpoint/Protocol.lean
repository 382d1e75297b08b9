import FailoverStorage.Naming.QualifiedName
import FailoverStorage.Net.ServiceIp
import FailoverStorage.Promoter.Agent

/-!
# Protocols

An endpoint exports its volumes over one of three protocols.  The protocol decides what identifies
the endpoint, which settings it has, and how its configuration is called: `tag-resource`, with one
tag for each protocol.
-/

namespace FailoverStorage

/-- The protocols over which volumes are exported. -/
inductive Protocol where
  | iscsi
  | nfs
  | nvmeof
  deriving DecidableEq, Inhabited

namespace Protocol

/-- The name of a protocol in messages. -/
def label : Protocol → String
  | iscsi => "iSCSI"
  | nfs => "NFS"
  | nvmeof => "NVMe-oF"

/-- The beginning of the ids of a protocol's configurations. -/
def tag : Protocol → String
  | iscsi => "iscsi"
  | nfs => "nfs"
  | nvmeof => "nvmeof"

/-- The kind of agent that only one configuration of the cluster may have. -/
def exclusiveKind : Protocol → Option String
  | nfs => some Agent.nfsServerKind
  | iscsi | nvmeof => none

/-! ## Identities -/

/-- What identifies an endpoint of a protocol. -/
def Identity : Protocol → Type
  | iscsi => Iqn
  | nfs => String
  | nvmeof => Nqn

instance : (p : Protocol) → DecidableEq p.Identity
  | iscsi => inferInstanceAs (DecidableEq Iqn)
  | nfs => inferInstanceAs (DecidableEq String)
  | nvmeof => inferInstanceAs (DecidableEq Nqn)

/-- The text of an identity. -/
def identityText : {p : Protocol} → p.Identity → String
  | iscsi, iqn => Iqn.text iqn
  | nfs, name => name
  | nvmeof, nqn => Nqn.text nqn

/-- The storage resource behind an endpoint. -/
def resourceName : {p : Protocol} → p.Identity → String
  | iscsi, iqn => Iqn.resourceName iqn
  | nfs, name => name
  | nvmeof, nqn => Nqn.resourceName nqn

/-- **Reads an identity.** -/
def parseIdentity : (p : Protocol) → String → Except Error p.Identity
  | iscsi, s => Iqn.parse s
  | nfs, s => (ResourceName.check s).map fun _ => s
  | nvmeof, s => Nqn.parse s

/-! ## Configuration ids -/

/-- **The id of the configuration of an endpoint.** -/
def configId {p : Protocol} (identity : p.Identity) : String :=
  p.tag ++ "-" ++ resourceName identity

/-- The resource that a configuration id names, if it is one of the protocol's. -/
def resourceOfConfigId (p : Protocol) (id : String) : Option String :=
  match Text.dropStart (p.tag ++ "-").toList id.toList with
  | some (c :: rest) => some (String.ofList (c :: rest))
  | _ => none

end Protocol

/-! ## Settings -/

/-- The settings of an iSCSI target. -/
structure IscsiSettings where
  /-- The name that initiators log in with; empty without a login. -/
  username : String := ""
  password : String := ""
  /-- The initiators that may log in; all if there are none. -/
  allowedInitiators : List Iqn := []
  deriving DecidableEq

/-- The settings of an NFS export. -/
structure NfsSettings where
  /-- The path below the root of all exports; derived from the name if empty. -/
  exportPath : String := ""
  /-- The networks that may mount; everyone if there are none. -/
  allowedIps : List ServiceIp := []
  deriving DecidableEq

/-- The settings of an NVMe-oF subsystem. -/
structure NvmeSettings where
  /-- The port to connect to; the usual one if 0. -/
  port : UInt16 := 0
  deriving DecidableEq

/-- The settings of an endpoint of a protocol. -/
def Protocol.Settings : Protocol → Type
  | iscsi => IscsiSettings
  | nfs => NfsSettings
  | nvmeof => NvmeSettings

instance : (p : Protocol) → DecidableEq p.Settings
  | .iscsi => inferInstanceAs (DecidableEq IscsiSettings)
  | .nfs => inferInstanceAs (DecidableEq NfsSettings)
  | .nvmeof => inferInstanceAs (DecidableEq NvmeSettings)

/-- Settings that are all left open. -/
def Protocol.noSettings : (p : Protocol) → p.Settings
  | .iscsi => ({} : IscsiSettings)
  | .nfs => ({} : NfsSettings)
  | .nvmeof => ({} : NvmeSettings)

end FailoverStorage

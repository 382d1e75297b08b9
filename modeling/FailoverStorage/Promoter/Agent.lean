import FailoverStorage.Data.SortedMap
import FailoverStorage.Error

/-!
# Agents

An agent starts and stops one piece of a service on the node where a resource is promoted: it
mounts a file system, claims an address, exports a volume.  It has a kind, a name and attributes.
Looking up an attribute that an agent cannot do without reports which agent lacks it.
-/

namespace FailoverStorage

/-- **One agent of a promoter configuration.** -/
structure Agent where
  /-- What the agent manages, by its registered name. -/
  kind : String
  /-- What tells the agent from others of the configuration. -/
  name : String
  attributes : SortedMap String String := .empty
  deriving DecidableEq, Inhabited

namespace Agent

/-! ## Kinds -/

/-- The kind of an agent of the shared class that is called `name`. -/
def shared (name : String) : String := "ocf:heartbeat:" ++ name

/-- What mounts a file system. -/
def fileSystemKind : String := shared "Filesystem"

/-- What claims an address. -/
def addressKind : String := shared "IPaddr2"

/-- What blocks or unblocks ports. -/
def portBlockKind : String := shared "portblock"

/-- What runs the NFS server. -/
def nfsServerKind : String := shared "nfsserver"

/-- What exports a directory. -/
def exportKind : String := shared "exportfs"

/-- What provides an iSCSI target. -/
def iscsiTargetKind : String := shared "iSCSITarget"

/-- What adds a volume to an iSCSI target. -/
def logicalUnitKind : String := shared "iSCSILogicalUnit"

/-- What provides an NVMe subsystem. -/
def subsystemKind : String := shared "nvmet-subsystem"

/-- What adds a volume to an NVMe subsystem. -/
def namespaceKind : String := shared "nvmet-namespace"

/-- What makes an NVMe subsystem reachable at an address. -/
def nvmePortKind : String := shared "nvmet-port"

/-! ## Attributes -/

/-- The agent of a kind and a name with a list of attributes. -/
def ofList (kind name : String) (attributes : List (String × String)) : Agent :=
  { kind, name, attributes := .ofList attributes }

/-- The value of an attribute. -/
def get? (a : Agent) (key : String) : Option String := a.attributes.find? key

/-- The value of an attribute that the agent must have. -/
def require (a : Agent) (key : String) : Except Error String :=
  match a.get? key with
  | some value => .ok value
  | none => .error (.promoter ("agent '" ++ a.name ++ "' (" ++ a.kind
      ++ ") is missing attribute '" ++ key ++ "'"))

/-- The number in an attribute that the agent must have. -/
def requireNumber {α : Type} (read : String → Option α) (a : Agent) (key : String) :
    Except Error α := do
  let raw ← a.require key
  match read raw with
  | some n => .ok n
  | none => .error (.promoter ("agent '" ++ a.name ++ "' has invalid value '" ++ raw ++ "' for '"
      ++ key ++ "'"))

end Agent

end FailoverStorage

import FailoverStorage.Data.SortedMap

/-!
# What the storage controller deploys

A replicated resource is described by a definition, by the definitions of its volumes and by the
group that says how many replicas it has; on each node that holds it there is a placement.  These
are the shapes in which a controller reports all that.
-/

namespace FailoverStorage

/-! ## Definitions -/

/-- The definition of a resource. -/
structure ResourceDefinition where
  name : String
  /-- The name of the group that places the resource. -/
  resourceGroup : String
  /-- Free settings kept with the definition. -/
  properties : SortedMap String String := .empty
  deriving DecidableEq, Inhabited

/-- A placement policy. -/
structure ResourceGroup where
  name : String
  /-- The number of replicas with a disk, if the group sets one. -/
  placeCount : Option UInt32 := none
  deriving DecidableEq, Inhabited

/-- The number of replicas that a group asks for: 2 unless it says otherwise. -/
def ResourceGroup.replicas (group : ResourceGroup) : Nat := (group.placeCount.getD 2).toNat

/-- The definition of a volume of a resource. -/
structure VolumeDefinition where
  number : UInt32
  sizeKib : UInt64
  /-- Whether the size includes the metadata of the replication. -/
  gross : Bool := false
  deriving DecidableEq, Inhabited

/-! ## Placements -/

/-- The replication state of one volume on one node. -/
inductive DiskState where
  | upToDate
  | outdated
  | inconsistent
  | diskless
  | unknown
  deriving DecidableEq, Inhabited

/-- The states of a disk that have a name of their own. -/
def DiskState.named : List (String × DiskState) :=
  [("UpToDate", .upToDate), ("Outdated", .outdated), ("Inconsistent", .inconsistent),
    ("Diskless", .diskless)]

/-- The state that a name stands for; every other name stands for an unknown state. -/
def DiskState.ofName (name : String) : DiskState := (named.lookup name).getD .unknown

/-- The name of a disk state. -/
def DiskState.name : DiskState → String
  | upToDate => "UpToDate"
  | outdated => "Outdated"
  | inconsistent => "Inconsistent"
  | diskless => "Diskless"
  | unknown => "Unknown"

/-- Every state is named by its own name. -/
theorem DiskState.ofName_name (s : DiskState) : ofName s.name = s := by
  cases s <;> decide

/-- A volume as one node reports it. -/
structure PlacedVolume where
  number : UInt32
  /-- The device node, once there is one. -/
  devicePath : Option String := none
  diskState : DiskState := .unknown
  deriving DecidableEq, Inhabited

/-- **A resource on one node.** -/
structure Placement where
  /-- The name of the resource. -/
  name : String
  nodeName : String
  /-- Whether the resource is promoted here; nothing before the node has reported. -/
  inUse : Option Bool := none
  /-- Whether the node reaches the data over the network only. -/
  diskless : Bool := false
  volumes : List PlacedVolume := []
  deriving DecidableEq, Inhabited

/-- Whether the node reports the resource in use. -/
def Placement.isInUse (p : Placement) : Bool := p.inUse.getD false

/-! ## Answers of a controller -/

/-- What ensuring a resource comes to. -/
structure Deployment where
  definition : ResourceDefinition
  group : ResourceGroup
  placements : List Placement
  deriving DecidableEq, Inhabited

/-- Everything a controller knows about one name. -/
structure DeployedState where
  definition : Option ResourceDefinition := none
  group : Option ResourceGroup := none
  volumeDefinitions : List VolumeDefinition := []
  placements : List Placement := []
  deriving DecidableEq, Inhabited

end FailoverStorage

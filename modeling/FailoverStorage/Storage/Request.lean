import FailoverStorage.Storage.Deployment
import FailoverStorage.Volume.Basic

/-!
# Requests for resources

A request names a resource, the volumes it must have and the properties that its definition must
carry.  Against what exists already a request asks for the missing volumes and the differing
properties only.  A volume of another size is never touched, and missing volumes are added only
where extending is allowed.
-/

namespace FailoverStorage

/-- **The requested shape of a resource.** -/
structure ResourceRequest where
  name : String
  resourceGroup : String
  /-- All volumes, the cluster-private one included. -/
  volumes : List Volume
  /-- Whether the sizes of the data volumes include the metadata of the replication. -/
  grossSize : Bool := false
  properties : SortedMap String String := .empty
  deriving Inhabited

namespace ResourceRequest

/-- The volumes among `requested` that `existing` lacks, for the resource `name`.  The first volume
that differs in size, or is missing and may not be added, is a conflict. -/
def missingAmong (name : String) (existing : List VolumeDefinition) (mayExtend : Bool) :
    List Volume → Except Error (List Volume)
  | [] => .ok []
  | v :: rest =>
    match existing.find? (·.number = v.number) with
    | some d =>
      if d.sizeKib = v.sizeKib then missingAmong name existing mayExtend rest
      else .error (.conflict ("volume " ++ Text.decimal v.number.toNat ++ " of resource " ++ name
        ++ " has size " ++ Text.decimal d.sizeKib.toNat ++ " KiB, requested "
        ++ Text.decimal v.sizeKib.toNat ++ " KiB"))
    | none =>
      if mayExtend then (missingAmong name existing mayExtend rest).map (v :: ·)
      else .error (.conflict ("resource " ++ name ++ " already exists without volume "
        ++ Text.decimal v.number.toNat))

/-- **The requested volumes that do not exist yet.** -/
def missingVolumes (request : ResourceRequest) (existing : List VolumeDefinition)
    (mayExtend : Bool) : Except Error (List Volume) :=
  missingAmong request.name existing mayExtend request.volumes

/-- The requested properties whose value differs from the current one. -/
def changedProperties (request : ResourceRequest) (current : SortedMap String String) :
    SortedMap String String :=
  request.properties.filter fun key value => current.find? key ≠ some value

/-- The definition of a requested volume: the cluster-private volume is never sized gross. -/
def volumeDefinition (request : ResourceRequest) (v : Volume) : VolumeDefinition :=
  { number := v.number, sizeKib := v.sizeKib
    gross := request.grossSize && v.number ≠ Volume.privateNumber }

end ResourceRequest

end FailoverStorage

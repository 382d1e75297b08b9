import FailoverStorage.Data.Sorting
import FailoverStorage.Error

/-!
# Volumes

An endpoint exports volumes.  A volume is addressed by its number, and number 0 is taken: it is the
volume on which the cluster keeps the state of the endpoint itself.
-/

namespace FailoverStorage

/-- A volume of an endpoint. -/
structure Volume where
  /-- The logical unit, the namespace or the index of the export. -/
  number : UInt32
  /-- The size in KiB. -/
  sizeKib : UInt64
  /-- The file system made on the volume, if any. -/
  fileSystem : Option String := none
  deriving DecidableEq, Inhabited

/-- The resource group used when none is requested. -/
def defaultResourceGroup : String := "DfltRscGrp"

namespace Volume

/-- The number of the volume that belongs to the cluster. -/
def privateNumber : UInt32 := 0

/-- **The cluster-private volume**: 64 MiB with a file system. -/
def clusterPrivate : Volume := { number := privateNumber, sizeKib := 65536, fileSystem := "ext4" }

/-! ## Requested volumes -/

/-- Checks requested volumes from left to right, `seen` being the numbers so far: no number is 0,
none occurs twice, no size is 0. -/
def checkFrom (seen : List UInt32) : List Volume → Except Error Unit
  | [] => .ok ()
  | v :: rest =>
    if v.number = privateNumber then
      .error (.validation "volume number 0 is reserved for the cluster private volume")
    else if v.number ∈ seen then
      .error (.validation ("volume number " ++ Text.decimal v.number.toNat
        ++ " is used more than once"))
    else if v.sizeKib = 0 then
      .error (.validation ("volume " ++ Text.decimal v.number.toNat
        ++ " must have a non-zero size"))
    else checkFrom (v.number :: seen) rest

/-- **Checks requested volumes**: non-zero distinct numbers and non-zero sizes. -/
def check (volumes : List Volume) : Except Error Unit := checkFrom [] volumes

/-- Volumes in ascending order of number; volumes of one number keep their order. -/
def sort (volumes : List Volume) : List Volume := sortOn Volume.number volumes

end Volume

end FailoverStorage

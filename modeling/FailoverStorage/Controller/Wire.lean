import FailoverStorage.Json.Decoder
import FailoverStorage.Storage.Deployment

/-!
# What a controller says

A controller describes resources by JSON objects of its own shape.  These decoders read them into
the shapes in which the gateway reports what is deployed.
-/

namespace FailoverStorage.Controller

open Json Json.Decode

/-- A text that must be there and was perhaps read, beside the rest of a record. -/
abbrev Named (α : Type) : Type := Option String × α

/-- Whether a flag is among those of an object. -/
def hasFlag (flag : String) (flags : List String) : Bool := flags.contains flag

/-- The message of one entry of a controller's answer to a failed call. -/
def decodeMessage : Decoder String :=
  record [field "message" Decode.text fun _ s => s] "" some

/-- The definition of a resource. -/
def decodeDefinition : Decoder ResourceDefinition :=
  record [field "name" Decode.text fun (d : Named ResourceDefinition) s => (some s, d.2),
      field "resource_group_name" Decode.text fun d s => (d.1, { d.2 with resourceGroup := s }),
      field "props" (Decode.map Decode.text) fun d m => (d.1, { d.2 with properties := m })]
    (none, { name := "", resourceGroup := "" })
    fun d => d.1.map fun name => { d.2 with name }

/-- The definition of a volume. -/
def decodeVolume : Decoder VolumeDefinition :=
  record [field "volume_number" word32
        fun (d : Option UInt32 × Option UInt64 × List String) n => (some n, d.2),
      field "size_kib" word64 fun d n => (d.1, some n, d.2.2),
      field "flags" (list Decode.text) fun d l => (d.1, d.2.1, l)] (none, none, [])
    fun d => do
      return { number := ← d.1, sizeKib := ← d.2.1, gross := hasFlag "GROSS_SIZE" d.2.2 }

/-- A group and its number of replicas. -/
def decodeGroup : Decoder ResourceGroup :=
  let count : Decoder (Option UInt32) :=
    record [field "place_count" (optional word32) fun _ n => n] none some
  record [field "name" Decode.text fun (d : Named (Option UInt32)) s => (some s, d.2),
      field "select_filter" count fun d n => (d.1, n)] (none, none)
    fun d => d.1.map fun name => { name, placeCount := d.2 }

/-- The state of a disk.  Every name is known, at least as an unknown state. -/
def decodeDiskState : Decoder DiskState
  | .text s => .ok (.ofName s)
  | .object [(s, .null)] true => .ok (.ofName s)
  | .object _ _ => .error .mismatch
  | _ => .error .malformed

/-- A volume of a placement. -/
def decodePlacedVolume : Decoder PlacedVolume :=
  let state : Decoder DiskState :=
    record [field "disk_state" decodeDiskState fun _ s => s] DiskState.unknown some
  record [field "volume_number" word32
        fun (d : Option UInt32 × PlacedVolume) n => (some n, d.2),
      field "device_path" (optional Decode.text) fun d s => (d.1, { d.2 with devicePath := s }),
      field "state" state fun d s => (d.1, { d.2 with diskState := s })] (none, { number := 0 })
    fun d => d.1.map fun number => { d.2 with number }

/-- A placement. -/
def decodePlacement : Decoder Placement :=
  let inUse : Decoder (Option Bool) :=
    record [field "in_use" (optional boolean) fun _ b => b] none some
  record [field "name" Decode.text fun (d : Named (Named Placement)) s => (some s, d.2),
      field "node_name" Decode.text fun d s => (d.1, some s, d.2.2),
      field "flags" (list Decode.text) fun d l =>
        (d.1, d.2.1, { d.2.2 with diskless := hasFlag "DISKLESS" l }),
      field "state" inUse fun d b => (d.1, d.2.1, { d.2.2 with inUse := b }),
      field "volumes" (list decodePlacedVolume) fun d vs =>
        (d.1, d.2.1, { d.2.2 with volumes := vs })]
    (none, none, { name := "", nodeName := "" })
    fun d => do return { d.2.2 with name := ← d.1, nodeName := ← d.2.1 }

/-- The entries of one instance of the controller's store. -/
def decodeEntries : Decoder (SortedMap String String) :=
  record [field "props" (Decode.map Decode.text) fun _ m => m] SortedMap.empty some

end FailoverStorage.Controller

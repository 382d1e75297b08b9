import FailoverStorage.Net.ServiceIp
import FailoverStorage.Promoter.Agent
import FailoverStorage.Storage.Deployment

/-!
# Agents that every endpoint has

Whatever an endpoint exports, it mounts file systems, claims its service IPs and keeps their ports
blocked while it moves.  The service IPs are read back from the agents that claim them.
-/

namespace FailoverStorage.Agent

open Text

/-! ## Devices and mounts -/

/-- **The device node of a volume**: what the first placement that lists the volume reports, or else
the path by which the node names it itself. -/
def devicePath (resource : String) (number : UInt32) (placements : List Placement) : String :=
  (((placements.flatMap (·.volumes)).find? (·.number = number)).bind (·.devicePath)).getD
    ("/dev/drbd/by-res/" ++ resource ++ "/" ++ decimal number.toNat)

/-- Mounts a device in a directory. -/
def mount (name device directory fileSystem : String) : Agent :=
  ofList fileSystemKind name
    [("device", device), ("directory", directory), ("fstype", fileSystem), ("run_fsck", "no")]

/-! ## Addresses and ports -/

/-- Blocks or unblocks the ports of a service IP. -/
def portBlock (name : String) (ip : ServiceIp) (ports action : String) : Agent :=
  ofList portBlockKind name
    [("ip", ip.address.text), ("portno", ports), ("action", action), ("protocol", "tcp")]

/-- Claims the service IP at position `index`. -/
def claim (index : Nat) (ip : ServiceIp) : Agent :=
  ofList addressKind ("service_ip" ++ decimal index)
    [("ip", ip.address.text), ("cidr_netmask", decimal ip.prefixLength.toNat)]

/-- The service IP that an agent claims. -/
def claimed (a : Agent) : Except Error ServiceIp := do
  let address ← a.require "ip"
  let length ← a.require "cidr_netmask"
  match ServiceIp.parse (address ++ "/" ++ length) with
  | .ok ip => .ok ip
  | .error e => .error (.promoter ("agent '" ++ a.name ++ "': " ++ e.message))

/-- **The service IPs that agents claim**, in order. -/
def serviceIps (agents : List Agent) : Except Error (List ServiceIp) :=
  (agents.filter (·.kind = addressKind)).mapM claimed

end FailoverStorage.Agent

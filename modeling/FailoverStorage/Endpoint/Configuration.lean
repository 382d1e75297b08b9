import FailoverStorage.Digest.Uuid
import FailoverStorage.Endpoint.Basic
import FailoverStorage.Promoter.Agent.Network
import FailoverStorage.Promoter.Config

/-!
# From endpoints to configurations

The configuration of an endpoint starts its agents in an order that is safe for a failover: mount
the cluster-private volume, block the ports, claim the addresses, start the service and export the
volumes, and unblock the ports last.  Serial numbers and the like are derived from names, so they
are the same on every node and after every failover.
-/

namespace FailoverStorage.Endpoint

open Text

/-! ## Agents around every service -/

/-- The directory below which cluster-private volumes are mounted. -/
def privateRoot : String := "/srv/ha/internal"

/-- The agents that start before the service. -/
def leadingAgents (resource : String) (ips : List ServiceIp) (ports : String)
    (placements : List Placement) : List Agent :=
  Agent.mount "fs_cluster_private" (Agent.devicePath resource Volume.privateNumber placements)
      (privateRoot ++ "/" ++ resource) "ext4"
    :: ips.zipIdx.map (fun (ip, i) => Agent.portBlock ("portblock" ++ decimal i) ip ports "block")
    ++ ips.zipIdx.map fun (ip, i) => Agent.claim i ip

/-- The agents that start after the service. -/
def trailingAgents (ips : List ServiceIp) (ports : String) : List Agent :=
  ips.zipIdx.map fun (ip, i) => Agent.portBlock ("portunblock" ++ decimal i) ip ports "unblock"

/-! ## iSCSI -/

/-- The port of iSCSI targets. -/
def iscsiPort : String := "3260"

/-- The implementation that serves targets and logical units. -/
def iscsiImplementation : String := "lio-t"

/-- The domain of the identifiers of logical units. -/
def iscsiDomain : String := "iscsi.gateway.linstor.linbit.com"

/-- The addresses at which a target listens. -/
def portals (ips : List ServiceIp) : String :=
  joinWith " " (ips.map fun ip =>
    (if ip.address.isV4 then ip.address.text else "[" ++ ip.address.text ++ "]")
      ++ ":" ++ iscsiPort)

/-- The agent of a target. -/
def targetAgent (iqn : Iqn) (ips : List ServiceIp) (s : IscsiSettings) : Agent :=
  .ofList Agent.iscsiTargetKind "target"
    ([("iqn", iqn.text), ("implementation", iscsiImplementation), ("portals", portals ips)]
      ++ (if s.username.isEmpty then []
        else [("incoming_username", s.username), ("incoming_password", s.password)])
      ++ (if s.allowedInitiators.isEmpty then []
        else [("allowed_initiators", joinWith " " (s.allowedInitiators.map Iqn.text))]))

/-- The identifier of a volume of an endpoint. -/
def volumeId (domain owner : String) (number : UInt32) : Uuid :=
  .derived domain (owner ++ "/" ++ decimal number.toNat)

/-- The agent of a logical unit. -/
def unitAgent (iqn : Iqn) (placements : List Placement) (v : Volume) : Agent :=
  .ofList Agent.logicalUnitKind ("lu" ++ decimal v.number.toNat)
    [("target_iqn", iqn.text), ("lun", decimal v.number.toNat),
      ("path", Agent.devicePath iqn.resourceName v.number placements),
      ("product_id", "HA iSCSI"),
      ("scsi_sn", String.ofList (hexadecimal 8
        ((volumeId iscsiDomain iqn.text v.number).leading 4))),
      ("implementation", iscsiImplementation)]

/-! ## NFS -/

/-- The port of NFS servers. -/
def nfsPort : String := "2049"

/-- The domain of the identifiers of exported file systems. -/
def nfsDomain : String := "nfs.gateway.linstor.linbit.com"

/-- The directory below which exported volumes are mounted. -/
def exportRoot : String := "/srv/gateway-exports"

/-- The directory in which an exported volume is mounted. -/
def volumeDirectory (exportPath : String) (number : UInt32) : String :=
  exportRoot ++ exportPath ++ "/vol" ++ decimal number.toNat

/-- The agent of the server, which keeps its state on the cluster-private volume. -/
def serverAgent (name : String) (ip : ServiceIp) : Agent :=
  .ofList Agent.nfsServerKind "nfsserver"
    [("nfs_ip", ip.address.text), ("nfs_shared_infodir", privateRoot ++ "/" ++ name ++ "/nfs"),
      ("nfs_server_scope", ip.address.text)]

/-- The agent that mounts an exported volume. -/
def mountAgent (name exportPath : String) (placements : List Placement) (v : Volume) : Agent :=
  Agent.mount ("fs_" ++ decimal v.number.toNat) (Agent.devicePath name v.number placements)
    (volumeDirectory exportPath v.number) (v.fileSystem.getD defaultFileSystem)

/-- The agents that export a volume, one for each network that may mount it. -/
def exportAgents (name : String) (s : NfsSettings) (v : Volume) : List Agent :=
  s.allowedIps.zipIdx.map fun (ip, i) =>
    .ofList Agent.exportKind ("export_" ++ decimal v.number.toNat ++ "_" ++ decimal i)
      [("clientspec", ip.address.text ++ "/" ++ ip.netmask), ("allowed_ip", ip.text),
        ("directory", volumeDirectory s.exportPath v.number),
        ("fsid", decimal ((volumeId nfsDomain name v.number).leading 4)),
        ("options", "rw,all_squash,anonuid=0,anongid=0"), ("wait_for_leasetime_on_stop", "true")]

/-! ## NVMe-oF -/

/-- The domain of the identifiers of subsystems and their namespaces. -/
def nvmeDomain : String := "nvmeof.gateway.linstor.linbit.com"

/-- The agent of a subsystem. -/
def subsystemAgent (nqn : Nqn) : Agent :=
  .ofList Agent.subsystemKind "subsys"
    [("nqn", nqn.text),
      ("serial", String.ofList (hexadecimal 16 ((Uuid.derived nvmeDomain nqn.text).leading 8))),
      ("allowed_hosts", "")]

/-- The agent of a namespace. -/
def namespaceAgent (nqn : Nqn) (placements : List Placement) (v : Volume) : Agent :=
  .ofList Agent.namespaceKind ("ns" ++ decimal v.number.toNat)
    [("nqn", nqn.text), ("namespace_id", decimal v.number.toNat),
      ("uuid", (volumeId nvmeDomain nqn.text v.number).text),
      ("backing_path", Agent.devicePath nqn.resourceName v.number placements)]

/-- The agent of the port at one service IP. -/
def portAgent (nqn : Nqn) (port : String) (ip : ServiceIp) (i : Nat) : Agent :=
  .ofList Agent.nvmePortKind ("port" ++ decimal i)
    [("nqns", nqn.text), ("addr", ip.address.text), ("svcid", port), ("type", "tcp"),
      ("addr_fam", if ip.address.isV4 then "ipv4" else "ipv6")]

/-! ## All protocols -/

/-- The ports at which an endpoint is reached. -/
def ports : {p : Protocol} → p.Settings → String
  | .iscsi, _ => iscsiPort
  | .nfs, _ => nfsPort
  | .nvmeof, s => decimal (s : NvmeSettings).port.toNat

/-- The agents of the service itself.  A file server is bound to the first service IP and cannot do
without one. -/
def serviceAgents : {p : Protocol} → Endpoint p → List Placement → Except Error (List Agent)
  | .iscsi, e, placements =>
    .ok (targetAgent e.identity e.serviceIps e.settings
      :: e.volumes.map (unitAgent e.identity placements))
  | .nfs, e, placements =>
    let s : NfsSettings := e.settings
    match e.serviceIps with
    | [] => .error (.validation "NFS export needs a service IP")
    | ip :: _ =>
      .ok (serverAgent e.identity ip
        :: e.volumes.map (mountAgent e.identity s.exportPath placements)
        ++ e.volumes.flatMap (exportAgents e.identity s))
  | .nvmeof, e, placements =>
    .ok (subsystemAgent e.identity
      :: e.volumes.map (namespaceAgent e.identity placements)
      ++ e.serviceIps.zipIdx.map fun (ip, i) => portAgent e.identity (ports e.settings) ip i)

/-- **The configuration of an endpoint**, with the devices that the placements report. -/
def toPromoter {p : Protocol} (e : Endpoint p) (placements : List Placement) :
    Except Error PromoterConfig := do
  let service ← serviceAgents e placements
  let leading := leadingAgents e.resourceName e.serviceIps (ports e.settings) placements
  let trailing := trailingAgents e.serviceIps (ports e.settings)
  return .single e.configId e.resourceName (leading ++ service ++ trailing)

end FailoverStorage.Endpoint

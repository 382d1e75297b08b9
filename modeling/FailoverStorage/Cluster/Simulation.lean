import FailoverStorage.Gateway.Backend
import FailoverStorage.Promoter.Document

/-!
# A simulated cluster

A cluster in memory plays both stores: it places resources on its nodes, hands out devices, and
promotes a resource some polls after its configuration was attached.  Failures can be provoked: a
stalled daemon completes no transition, and placement reads can be made to fail.

* `Cluster.backend` is the backend over this state.
* Every change is counted, so it shows which operations write.
-/

namespace FailoverStorage

/-! ## The state -/

/-- A promotion or demotion under way. -/
structure Transition where
  promote : Bool
  /-- The polls that pass before it shows. -/
  pollsLeft : Nat
  deriving DecidableEq

/-- A resource of the cluster. -/
structure ClusterResource where
  definition : ResourceDefinition
  volumes : SortedMap UInt32 VolumeDefinition := .empty
  placements : List Placement := []
  transition : Option Transition := none

/-- The text of a configuration. -/
structure ConfigText where
  content : String
  attached : Bool
  deriving DecidableEq

/-- **A simulated cluster.** -/
structure Cluster where
  nodes : List String := ["node-a", "node-b", "node-c"]
  groups : SortedMap String ResourceGroup :=
    .ofList [(defaultResourceGroup, { name := defaultResourceGroup, placeCount := some 2 })]
  resources : SortedMap String ClusterResource := .empty
  /-- The stored configurations by their paths. -/
  configs : SortedMap String ConfigText := .empty
  /-- The number of the next device, without a bound.  Every replica that is created raises it by
  one (`Cluster.WellPlaced.counter`), so it has 32 bits while there were fewer than `2 ^ 32 - 1000`
  of them. -/
  nextMinor : Nat := 1000
  /-- The polls that a transition takes. -/
  transitionPolls : Nat := 0
  storageWrites : Nat := 0
  configWrites : Nat := 0
  /-- The placement reads that will fail. -/
  failingPolls : Nat := 0
  /-- Whether transitions stand still. -/
  stalled : Bool := false

namespace Cluster

/-- Adds a placement policy. -/
def addGroup (c : Cluster) (group : ResourceGroup) : Cluster :=
  { c with groups := c.groups.insert group.name group }

/-- Counts a change of the storage. -/
def countStorageWrite (c : Cluster) : Cluster := { c with storageWrites := c.storageWrites + 1 }

/-- Counts a change of the configurations. -/
def countConfigWrite (c : Cluster) : Cluster := { c with configWrites := c.configWrites + 1 }

/-- Changes a resource, if it exists. -/
def changeResource (c : Cluster) (name : String) (f : ClusterResource → ClusterResource) :
    Cluster :=
  { c with resources := c.resources.adjust name f }

/-! ## Provoked states -/

/-- Stores the text of a configuration as it is. -/
def storeText (c : Cluster) (id content : String) (attached : Bool) : Cluster :=
  { c with configs := c.configs.insert (PromoterConfig.pathOf id) { content, attached } }

/-- Changes the first element that satisfies `p`. -/
def changeFirst {α : Type} (p : α → Bool) (f : α → α) : List α → List α
  | [] => []
  | a :: rest => if p a then f a :: rest else a :: changeFirst p f rest

/-- Sets the state of the first volume of a number on a placement. -/
def setVolumeState (number : UInt32) (state : DiskState) (p : Placement) : Placement :=
  { p with
    volumes := changeFirst (·.number = number) (fun v => { v with diskState := state }) p.volumes }

/-- Sets the state of one disk, on the first placement that the node has. -/
def setDiskState (name node : String) (number : UInt32) (state : DiskState) :
    Action Cluster Unit := do
  let c ← get
  let placement := (c.resources.find? name).bind fun r => r.placements.find? (·.nodeName = node)
  if placement.any fun p => p.volumes.any (·.number = number) then
    set (c.changeResource name fun r =>
      { r with
        placements := changeFirst (·.nodeName = node) (setVolumeState number state) r.placements })
  else
    throw (.notFound "resource-volume" (name ++ "/" ++ node ++ "/" ++ Text.decimal number.toNat))

/-! ## Placing resources -/

/-- A new volume on the device with a number. -/
def newVolume (number : UInt32) (minor : Nat) : PlacedVolume :=
  { number, devicePath := some ("/dev/drbd" ++ Text.decimal minor), diskState := .upToDate }

/-- New volumes on the devices from a number on. -/
def newVolumes (minor : Nat) : List UInt32 → List PlacedVolume
  | [] => []
  | number :: rest => newVolume number minor :: newVolumes (minor + 1) rest

/-- New placements of a resource, on the devices from a number on. -/
def newPlacements (name : String) (numbers : List UInt32) (minor : Nat) :
    List String → List Placement
  | [] => []
  | node :: rest =>
    { name, nodeName := node, inUse := some false, volumes := newVolumes minor numbers }
      :: newPlacements name numbers (minor + numbers.length) rest

/-- Places a resource on as many nodes as its group asks for, the first ones. -/
def place (name : String) (count : Nat) : Action Cluster Unit := do
  let c ← get
  if c.nodes.length < count then
    throw (.refused "POST" ("/v1/resource-definitions/" ++ name ++ "/autoplace") 400
      ("not enough nodes: " ++ Text.decimal c.nodes.length ++ " available, " ++ Text.decimal count
        ++ " requested"))
  let nodes := c.nodes.take count
  let numbers := ((c.resources.find? name).map (·.volumes.keys)).getD []
  set ({ c with nextMinor := c.nextMinor + nodes.length * numbers.length }.changeResource name
    fun r => { r with placements := newPlacements name numbers c.nextMinor nodes })

/-- Adds a volume to each placement, on the devices from a number on. -/
def extendPlacements (number : UInt32) (minor : Nat) : List Placement → List Placement
  | [] => []
  | p :: rest =>
    { p with volumes := sortOn PlacedVolume.number (p.volumes ++ [newVolume number minor]) }
      :: extendPlacements number (minor + 1) rest

/-- Defines a volume of a resource and adds it wherever the resource is placed. -/
def defineVolume (name : String) (d : VolumeDefinition) (c : Cluster) : Cluster :=
  let placed := ((c.resources.find? name).map (·.placements.length)).getD 0
  ({ c with nextMinor := c.nextMinor + placed }.changeResource name fun r =>
    { r with
      volumes := r.volumes.insert d.number d
      placements := extendPlacements d.number c.nextMinor r.placements }).countStorageWrite

/-! ## The storage controller -/

/-- Brings the properties of a definition towards a request. -/
def updateProperties (request : ResourceRequest) (r : ClusterResource) (c : Cluster) : Cluster :=
  let changed := request.changedProperties r.definition.properties
  if changed.isEmpty then c
  else (c.changeResource request.name fun r =>
    { r with definition :=
        { r.definition with properties := r.definition.properties.override changed } }
    ).countStorageWrite

/-- Creates the definition that a request asks for, without volumes. -/
def defineResource (request : ResourceRequest) (group : ResourceGroup) (c : Cluster) : Cluster :=
  { c with
    resources := c.resources.insert request.name
      { definition :=
          { name := request.name, resourceGroup := group.name
            properties := request.properties } } }.countStorageWrite

/-- **Creates a resource or brings it towards a request**: definition, properties, volumes, and
placements if there are none. -/
def ensureResource (request : ResourceRequest) (mayExtend : Bool) :
    Action Cluster Deployment := do
  let c ← get
  let some group := c.groups.find? request.resourceGroup
    | throw (.notFound "resource-group" request.resourceGroup)
  let missing ← match c.resources.find? request.name with
    | some r => do
      let missing ← Action.ofExcept (request.missingVolumes r.volumes.values mayExtend)
      modify (updateProperties request r)
      pure missing
    | none => do
      modify (defineResource request group)
      pure request.volumes
  modify fun c =>
    missing.foldl (fun c v => defineVolume request.name (request.volumeDefinition v) c) c
  if (((← get).resources.find? request.name).map (·.placements.isEmpty)).getD false then
    place request.name group.replicas
    modify countStorageWrite
  match (← get).resources.find? request.name with
  | some r => return { definition := r.definition, group, placements := r.placements }
  | none => throw (.internal ("resource " ++ request.name ++ " vanished"))

/-- Deletes a resource that is not in use. -/
def deleteResource (name : String) : Action Cluster Unit := do
  let c ← get
  match c.resources.find? name with
  | none => throw (.notFound "resource-definition" name)
  | some r =>
    if r.placements.any (·.isInUse) then throw (.conflict ("resource " ++ name ++ " is in use"))
    else set ({ c with resources := c.resources.erase name }.countStorageWrite)

/-- Deletes a volume of a resource, wherever it is placed. -/
def deleteVolume (name : String) (number : UInt32) : Action Cluster Unit := do
  let c ← get
  if (c.resources.find? name).any fun r => r.volumes.contains number then
    set (c.changeResource name fun r =>
      { r with
        volumes := r.volumes.erase number
        placements := r.placements.map fun p =>
          { p with volumes := p.volumes.filter (·.number ≠ number) } }).countStorageWrite
  else
    throw (.notFound "volume-definition" (name ++ "/" ++ Text.decimal number.toNat))

/-- Everything about a name. -/
def deployed (name : String) : Action Cluster DeployedState := do
  let c ← get
  match c.resources.find? name with
  | none => return {}
  | some r =>
    return { definition := some r.definition
             group := c.groups.find? r.definition.resourceGroup
             volumeDefinitions := r.volumes.values
             placements := r.placements }

/-- Reports a resource promoted on the first node with a disk, or nowhere. -/
def settle (promote : Bool) : List Placement → List Placement
  | [] => []
  | p :: rest =>
    { p with inUse := some (promote && !p.diskless) } :: settle (promote && p.diskless) rest

/-- What a resource comes to when its placements are read: a transition goes on or completes. -/
def advance (r : ClusterResource) : ClusterResource :=
  match r.transition with
  | none => r
  | some { promote, pollsLeft := 0 } =>
    { r with transition := none, placements := settle promote r.placements }
  | some { promote, pollsLeft := n + 1 } =>
    { r with transition := some { promote, pollsLeft := n } }

/-- **Reads the placements of a resource**, which is when time passes for it. -/
def placements (name : String) : Action Cluster (List Placement) := do
  let c ← get
  match c.failingPolls with
  | n + 1 =>
    set { c with failingPolls := n }
    throw (.refused "GET" ("/v1/view/resources?resources=" ++ name) 503 "controller unavailable")
  | 0 =>
    let c := if c.stalled then c else c.changeResource name advance
    set c
    return ((c.resources.find? name).map (·.placements)).getD []

/-! ## The store of configurations -/

/-- Begins to promote or demote the resources of a configuration. -/
def schedule (config : PromoterConfig) (promote : Bool) (c : Cluster) : Cluster :=
  { c with
    resources := c.resources.mapValues fun name r =>
      if config.resources.contains name then
        { r with transition := some { promote, pollsLeft := c.transitionPolls } }
      else r }

/-- The stored configuration of an id. -/
def findConfig (id : String) : Action Cluster (Option StoredConfig) := do
  let path := PromoterConfig.pathOf id
  match (← get).configs.find? path with
  | none => return none
  | some text =>
    let config ← Action.ofExcept (PromoterConfig.ofToml text.content)
    return some { config, path, attached := text.attached }

/-- The stored configuration at a path, if it can be read. -/
def readable (path : String) (text : ConfigText) : Option StoredConfig :=
  match PromoterConfig.ofToml text.content with
  | .ok config => some { config, path, attached := text.attached }
  | .error _ => none

/-- All configurations that can be read, in the order of their paths. -/
def listConfigs : Action Cluster (List StoredConfig) := do
  return (← get).configs.entries.filterMap fun (path, text) => readable path text

/-- Stores a configuration; it stays attached if it was. -/
def ensureConfig (config : PromoterConfig) : Action Cluster Unit :=
  modify fun c =>
    let attached := ((c.configs.find? config.path).map (·.attached)).getD false
    { c with configs := c.configs.insert config.path { content := config.toToml, attached }
      }.countConfigWrite

/-- Stores a configuration as attached and begins to promote its resources. -/
def attach (config : PromoterConfig) : Action Cluster Unit :=
  modify fun c =>
    (schedule config true
      { c with
        configs := c.configs.insert config.path { content := config.toToml, attached := true } }
      ).countConfigWrite

/-- Marks a configuration as detached and begins to demote its resources. -/
def detach (config : PromoterConfig) : Action Cluster Unit := do
  let c ← get
  if c.configs.contains config.path then
    set (schedule config false
      { c with configs := c.configs.adjust config.path fun t => { t with attached := false } }
      ).countConfigWrite
  else throw (.notFound "promoter-config" config.id)

/-- Removes a configuration, and begins to demote its resources if it can be read. -/
def deleteConfig (id : String) : Action Cluster Unit :=
  modify fun c =>
    let path := PromoterConfig.pathOf id
    match c.configs.find? path with
    | none => c
    | some text =>
      let removed := { c with configs := c.configs.erase path }
      (match PromoterConfig.ofToml text.content with
        | .ok config => schedule config false removed
        | .error _ => removed).countConfigWrite

/-! ## Both stores -/

/-- **The backend that a simulated cluster offers.** -/
def backend : Backend Cluster where
  storage :=
    { ensure := ensureResource, deleteResource, deleteVolume, deployed, placements }
  configs :=
    { find := findConfig, list := listConfigs, ensure := ensureConfig, attach, detach
      delete := deleteConfig }

end Cluster

end FailoverStorage

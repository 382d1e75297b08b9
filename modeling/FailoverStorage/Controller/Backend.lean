import FailoverStorage.Controller.Client
import FailoverStorage.Http.Percent
import FailoverStorage.Promoter.Document

/-!
# A controller as backend

A storage controller keeps both stores: resources as its own objects, promoter configurations as
entries of its key-value store, which the daemons read as files.  A daemon runs a configuration if
a property of the definition of its resource enables the file.
-/

namespace FailoverStorage.Controller

variable {σ : Type}

/-! ## Paths and bodies -/

/-- The path of the definition of a resource. -/
def definitionPath (name : String) : String :=
  "/v1/resource-definitions/" ++ Http.percentEncode name

/-- The path of the volumes of a resource. -/
def volumesPath (name : String) : String := definitionPath name ++ "/volume-definitions"

/-- The path of the store of configurations. -/
def entriesPath : String := "/v1/key-value-store/linstor-gateway"

/-- Properties as a JSON object. -/
def propertiesJson (properties : SortedMap String String) : Json :=
  .object (properties.entries.map fun (k, v) => (k, .text v))

/-- The body that sets some properties and removes others. -/
def changesJson (set : SortedMap String String) (remove : List String) : Json :=
  .object [("override_props", propertiesJson set), ("delete_props", .texts remove)]

/-- The body that asks for the definition of a resource. -/
def definitionJson (request : ResourceRequest) : Json :=
  .object [("resource_definition", .object [("name", .text request.name),
    ("resource_group_name", .text request.resourceGroup),
    ("props", propertiesJson request.properties)])]

/-- The body that asks for a volume. -/
def volumeJson (d : VolumeDefinition) : Json :=
  .object [("volume_definition", .object [("volume_number", .ofNat d.number.toNat),
    ("size_kib", .ofNat d.sizeKib.toNat),
    ("flags", .texts (if d.gross then ["GROSS_SIZE"] else []))])]

/-! ## Objects of the controller -/

/-- The definition of a resource. -/
def definition? (c : Controller σ) (name : String) : Action σ (Option ResourceDefinition) :=
  c.read? (definitionPath name) decodeDefinition

/-- A group. -/
def group? (c : Controller σ) (name : String) : Action σ (Option ResourceGroup) :=
  c.read? ("/v1/resource-groups/" ++ Http.percentEncode name) decodeGroup

/-- The volumes of a resource. -/
def volumes (c : Controller σ) (name : String) : Action σ (List VolumeDefinition) :=
  c.read (volumesPath name) (Json.Decode.list decodeVolume)

/-- The placements of a resource. -/
def placements (c : Controller σ) (name : String) : Action σ (List Placement) :=
  c.read ("/v1/view/resources?resources=" ++ Http.percentEncode name)
    (Json.Decode.list decodePlacement)

/-- Changes the properties of the definition of a resource. -/
def changeProperties (c : Controller σ) (name : String) (set : SortedMap String String)
    (remove : List String) : Action σ Unit :=
  c.send "PUT" (definitionPath name) (some (changesJson set remove))

/-- Defines volumes of a resource one after another. -/
def defineVolumes (c : Controller σ) (request : ResourceRequest) : List Volume → Action σ Unit
  | [] => return ()
  | v :: rest => do
    (c.send "POST" (volumesPath request.name)
        (some (volumeJson (request.volumeDefinition v)))).inPhase
      ("failed to create volume " ++ request.name ++ "/" ++ Text.decimal v.number.toNat)
    c.defineVolumes request rest

/-! ## The storage -/

/-- The volumes that must be defined for a request, after the definition was created or its
properties were brought towards the request. -/
def prepare (c : Controller σ) (request : ResourceRequest) (mayExtend : Bool) :
    Action σ (List Volume) := do
  match ← c.definition? request.name with
  | some definition =>
    let existing ← c.volumes request.name
    let missing ← Action.ofExcept (request.missingVolumes existing mayExtend)
    let changed := request.changedProperties definition.properties
    if !changed.isEmpty then
      (c.changeProperties request.name changed []).inPhase
        ("failed to update resource definition " ++ request.name)
    return missing
  | none =>
    (c.send "POST" "/v1/resource-definitions" (some (definitionJson request))).inPhase
      ("failed to create resource definition " ++ request.name)
    return request.volumes

/-- The placements of a resource, which is placed first if it has none. -/
def placed (c : Controller σ) (name : String) : Action σ (List Placement) := do
  let found ← c.placements name
  if found.isEmpty then
    (c.send "POST" (definitionPath name ++ "/autoplace") (some (.object []))).inPhase
      ("failed to place resource " ++ name)
    c.placements name
  else return found

/-- **Creates a resource or brings it towards a request.** -/
def ensureResource (c : Controller σ) (request : ResourceRequest) (mayExtend : Bool) :
    Action σ Deployment := do
  let some group ← c.group? request.resourceGroup
    | throw (.notFound "resource-group" request.resourceGroup)
  let missing ← c.prepare request mayExtend
  c.defineVolumes request missing
  let placements ← c.placed request.name
  match ← c.definition? request.name with
  | some definition => return { definition, group, placements }
  | none => throw (.notFound "resource-definition" request.name)

/-- Everything about a name. -/
def deployed (c : Controller σ) (name : String) : Action σ DeployedState := do
  match ← c.definition? name with
  | none => return {}
  | some definition =>
    let group ← c.group? definition.resourceGroup
    let volumeDefinitions ← c.volumes name
    let placements ← c.placements name
    return { definition := some definition, group, volumeDefinitions, placements }

/-! ## The configurations -/

/-- The directory of configuration files. -/
def configDirectory : String := "/etc/drbd-reactor.d"

/-- The property that enables the file at a path. -/
def fileProperty (path : String) : String := "files" ++ path

/-- All entries of the store. -/
def entries (c : Controller σ) : Action σ (SortedMap String String) := do
  let instances ← c.read? entriesPath (Json.Decode.list decodeEntries)
  return (instances.getD []).foldl (fun m n => m.override n) .empty

/-- Changes entries of the store. -/
def changeEntries (c : Controller σ) (set : SortedMap String String) (remove : List String) :
    Action σ Unit :=
  c.send "PUT" entriesPath (some (changesJson set remove))

/-- Whether one of several resources has the file at a path enabled. -/
def anyEnables (c : Controller σ) (path : String) : List String → Action σ Bool
  | [] => return false
  | name :: rest => do
    let enabled := ((← c.definition? name).bind fun d => d.properties.find? (fileProperty path))
      = some "True"
    if enabled then return true else c.anyEnables path rest

/-- The configuration that is stored at a path. -/
def stored (c : Controller σ) (path : String) (config : PromoterConfig) :
    Action σ StoredConfig := do
  return { config, path, attached := ← c.anyEnables path config.resources.keys }

/-- The configurations among entries; what cannot be read is passed over. -/
def readable (c : Controller σ) : List (String × String) → Action σ (List StoredConfig)
  | [] => return []
  | (path, content) :: rest =>
    match PromoterConfig.ofToml content with
    | .error _ => c.readable rest
    | .ok config => do
      let first ← (some <$> c.stored path config).getD none
      return first.toList ++ (← c.readable rest)

/-- The stored configuration of an id. -/
def findConfig (c : Controller σ) (id : String) : Action σ (Option StoredConfig) := do
  let path := PromoterConfig.pathOf id
  match (← c.entries).find? path with
  | none => return none
  | some content => some <$> c.stored path (← Action.ofExcept (PromoterConfig.ofToml content))

/-- All stored configurations that can be read. -/
def listConfigs (c : Controller σ) : Action σ (List StoredConfig) := do
  let all ← c.entries
  c.readable (all.entries.filter fun (path, _) =>
    (Text.dropStart configDirectory.toList path.toList).isSome)

/-- Stores a configuration. -/
def ensureConfig (c : Controller σ) (config : PromoterConfig) : Action σ Unit :=
  c.changeEntries (SortedMap.empty.insert config.path config.toToml) []

/-- Enables or disables the file at a path on several resources. -/
def enableOn (c : Controller σ) (path : String) (enabled : Bool) : List String → Action σ Unit
  | [] => return ()
  | name :: rest => do
    let value := if enabled then "True" else "False"
    (c.changeProperties name (SortedMap.empty.insert (fileProperty path) value) []).inPhase
      ("failed to toggle " ++ path ++ " on " ++ name)
    c.enableOn path enabled rest

/-- Stores a configuration and enables it. -/
def attach (c : Controller σ) (config : PromoterConfig) : Action σ Unit := do
  c.ensureConfig config
  c.enableOn config.path true config.resources.keys

/-- Disables a configuration. -/
def detach (c : Controller σ) (config : PromoterConfig) : Action σ Unit :=
  c.enableOn config.path false config.resources.keys

/-- Removes the property that enables a file from several resources; they need not exist. -/
def forgetOn (c : Controller σ) (path : String) : List String → Action σ Unit
  | [] => return ()
  | name :: rest => do
    (c.changeProperties name .empty [fileProperty path]).orAbsent
    c.forgetOn path rest

/-- Removes a configuration and the properties that enable it. -/
def deleteConfig (c : Controller σ) (id : String) : Action σ Unit := do
  match ← c.findConfig id with
  | none => return ()
  | some stored =>
    c.forgetOn stored.path stored.config.resources.keys
    c.changeEntries .empty [stored.path]

/-! ## Both stores -/

/-- **The backend that a controller offers.** -/
def backend (c : Controller σ) : Backend σ where
  storage :=
    { ensure := c.ensureResource
      deleteResource := fun name => c.send "DELETE" (definitionPath name)
      deleteVolume := fun name number =>
        c.send "DELETE" (volumesPath name ++ "/" ++ Text.decimal number.toNat)
      deployed := c.deployed
      placements := c.placements }
  configs :=
    { find := c.findConfig, list := c.listConfigs, ensure := c.ensureConfig
      attach := c.attach, detach := c.detach, delete := c.deleteConfig }

end FailoverStorage.Controller

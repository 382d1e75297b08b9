import FailoverStorage.Promoter.Agent

/-!
# Promoter configurations

A promoter configuration tells the cluster which agents to run, in which order, on the node where a
resource is promoted.  A configuration of the gateway manages exactly one resource; one that was
written by hand may manage none or several.
-/

namespace FailoverStorage

/-- What runs where a resource is promoted. -/
structure PromotedResource where
  /-- The agents, in the order in which they are started. -/
  start : List Agent := []
  /-- Whether the agents are stopped when the daemon ends. -/
  stopServicesOnExit : Bool := false
  /-- What to do if the resource cannot be demoted. -/
  onDemoteFailure : Option String := none
  /-- How the services depend on each other. -/
  targetAs : Option String := none
  deriving DecidableEq, Inhabited

/-- **A promoter configuration.** -/
structure PromoterConfig where
  id : String
  /-- What is managed, by the name of the resource. -/
  resources : SortedMap String PromotedResource := .empty
  deriving DecidableEq, Inhabited

namespace PromoterConfig

/-- The configuration of an endpoint: one resource, whose node restarts at once if the services do
not stop. -/
def single (id resource : String) (start : List Agent) : PromoterConfig :=
  { id
    resources := SortedMap.empty.insert resource
      { start, stopServicesOnExit := true
        onDemoteFailure := "reboot-immediate", targetAs := "Requires" } }

/-- Where the configuration with an id is stored. -/
def pathOf (id : String) : String := "/etc/drbd-reactor.d/linstor-gateway-" ++ id ++ ".toml"

/-- Where a configuration is stored. -/
def path (c : PromoterConfig) : String := pathOf c.id

/-- **The one resource that a configuration manages.** -/
def resource (c : PromoterConfig) : Except Error (String × PromotedResource) :=
  match c.resources.entries with
  | [entry] => .ok entry
  | [] => .error (.promoter ("promoter config '" ++ c.id ++ "' manages no resource"))
  | _ => .error (.promoter ("promoter config '" ++ c.id ++ "' manages more than one resource"))

/-- The agents of all resources, in the order of the resources' names. -/
def agents (c : PromoterConfig) : List Agent := c.resources.values.flatMap (·.start)

/-- Whether an agent of a kind is among those of the configuration. -/
def hasKind (c : PromoterConfig) (kind : String) : Bool := c.agents.any (·.kind = kind)

end PromoterConfig

end FailoverStorage

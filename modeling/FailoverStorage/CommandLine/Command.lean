import FailoverStorage.CommandLine.Arguments
import FailoverStorage.Controller.Address
import FailoverStorage.Endpoint.Protocol
import FailoverStorage.Text.Numeral
import FailoverStorage.Text.Split

/-!
# Commands

The command line names a protocol and what to do with its endpoints, or starts the service over
HTTP.  Some settings hold for every command: they may be given on any level, where the innermost
one counts, or in the environment, which counts where no level gives them.  What is set in the
environment must be possible unless every level gives it.
-/

namespace FailoverStorage.CommandLine

open Text

/-! ## What can be asked for -/

/-- How a list is written. -/
inductive Format where
  | table
  | json
  | yaml
  deriving DecidableEq

/-- What a new endpoint is to have, whatever its protocol. -/
structure NewEndpoint where
  identity : String
  serviceIps : String
  sizes : List String
  resourceGroup : String
  gross : Bool

/-- What is to be done with the endpoints of one protocol. -/
inductive Task where
  | list (format : Format)
  | start (ids : List String)
  | stop (ids : List String)
  | delete (ids : List String)
  | addVolume (id : String) (number : UInt32) (size : String) (fileSystem : Option String)
  | deleteVolume (id : String) (number : UInt32)

/-- **What a command line asks for.** -/
inductive Command where
  | createTarget (e : NewEndpoint) (username password : String) (initiators : List String)
  | createExport (e : NewEndpoint) (exportPath : String) (allowedIps : List String)
  | createSubsystem (e : NewEndpoint) (port : UInt16)
  | manage (p : Protocol) (task : Task)
  | serve (address : String)

/-- The settings that hold for every command. -/
structure Settings where
  controllers : String
  standalone : Bool
  waitTimeoutS : Nat
  pollIntervalMs : Nat

/-- What a command line means. -/
inductive Invocation where
  /-- It does not fit. -/
  | misuse
  /-- It asks for the version. -/
  | version
  | run (settings : Settings) (command : Command)

/-! ## Options -/

/-- Whether a value is a positive number of 64 bits. -/
def isPositive (value : String) : Bool :=
  (boundedNumeral? (UInt64.size - 1) value.toList).any (0 < ·)

/-- Whether a value is a truth value. -/
def isTruth (value : String) : Bool := value = "true" || value = "false"

/-- The options that every level knows. -/
def commonOptions : List KnownOption :=
  [{ long := "controllers", arity := .single }, { long := "log-level", arity := .single },
    { long := "log-json", arity := .switch, accepts := isTruth },
    { long := "standalone", arity := .switch, accepts := isTruth },
    { long := "wait-timeout", arity := .single, accepts := isPositive },
    { long := "poll-interval", arity := .single, accepts := isPositive }]

/-- The variables of the environment that set common options. -/
def settingVariables : List (String × String) :=
  [("controllers", "LS_CONTROLLERS"), ("log-level", "LOG_LEVEL"), ("log-json", "LOG_JSON"),
    ("standalone", "STANDALONE"), ("wait-timeout", "GATEWAY_WAIT_TIMEOUT"),
    ("poll-interval", "GATEWAY_POLL_INTERVAL")]

/-- What the environment sets a common option to. -/
def fromEnvironment? (environment : List (String × String)) (long : String) : Option String :=
  (settingVariables.lookup long).bind fun name => environment.lookup name

/-- Whether everything that the environment sets is possible.  It is not looked at for an option
that is given on every level. -/
def isEnvironmentPossible (environment : List (String × String)) (given : List (List Given)) :
    Bool :=
  commonOptions.all fun o =>
    ((fromEnvironment? environment o.long).map o.accepts).getD true
      || given.all fun level => level.any (·.long = o.long)

/-- The value of a common option: the innermost one that was given, or else that of the
environment. -/
def common? (long : String) (environment : List (String × String)) (given : List (List Given)) :
    Option String :=
  (given.flatMap (valuesOf long)).getLast?.or (fromEnvironment? environment long)

/-- The settings, given the options of all levels from the outermost in. -/
def settings (environment : List (String × String)) (given : List (List Given)) : Settings :=
  let value (long : String) := common? long environment given
  let number (long : String) (default : Nat) : Nat :=
    ((value long).bind fun v => numeral? v.toList).getD default
  { controllers := (value "controllers").getD Controller.defaultAddress
    standalone := value "standalone" = some "true"
    waitTimeoutS := number "wait-timeout" 30
    pollIntervalMs := number "poll-interval" 1000 }

/-- The names of the formats. -/
def formats : List (String × Format) := [("table", .table), ("json", .json), ("yaml", .yaml)]

/-- The options of a command that creates an endpoint. -/
def createOptions : List KnownOption :=
  [{ long := "resource-group", arity := .single }, { long := "gross", arity := .switch }]

/-- The options that only one protocol has for a new endpoint. -/
def protocolOptions : Protocol → List KnownOption
  | .iscsi =>
    [{ long := "username", short := some 'u', arity := .single },
      { long := "password", short := some 'p', arity := .single },
      { long := "allowed-initiator", arity := .repeated }]
  | .nfs =>
    [{ long := "export-path", arity := .single }, { long := "allowed-ips", arity := .repeated }]
  | .nvmeof => [{ long := "port", arity := .single, accepts := fun v => (word16? v).isSome }]

/-! ## Commands -/

/-- The last value of an option, or a default. -/
def valueOr (default long : String) (given : List Given) : String :=
  (valuesOf long given).getLast?.getD default

/-- The command that creates an endpoint with the given options and operands. -/
def createCommand (p : Protocol) (given : List Given) : List String → Option Command
  | identity :: serviceIps :: size :: sizes =>
    let e : NewEndpoint :=
      { identity, serviceIps, sizes := size :: sizes
        resourceGroup := valueOr "DfltRscGrp" "resource-group" given
        gross := !(valuesOf "gross" given).isEmpty }
    match p with
    | .iscsi =>
      some (.createTarget e (valueOr "" "username" given) (valueOr "" "password" given)
        (valuesOf "allowed-initiator" given))
    | .nfs =>
      let pieces (value : String) := (splitAll ',' value.toList).map String.ofList
      some (.createExport e (valueOr "" "export-path" given)
        ((valuesOf "allowed-ips" given).flatMap pieces))
    | .nvmeof =>
      (word16? (valueOr "4420" "port" given)).map fun port => .createSubsystem e port
  | _ => none

/-- A task on several endpoints. -/
def onTargets (task : List String → Task) (p : Protocol) (_given : List Given) :
    List String → Option Command
  | [] => none
  | ids => some (.manage p (task ids))

/-- How the words after a command are understood. -/
structure Grammar where
  options : List KnownOption := []
  build : List Given → List String → Option Command

/-- The grammar of a command on the endpoints of a protocol. -/
def grammar? (p : Protocol) : (name : String) → Option Grammar
  | "create" => some { options := createOptions ++ protocolOptions p, build := createCommand p }
  | "list" => some
    { options := [{ long := "output", short := some 'o', arity := .single
                    accepts := fun v => (formats.lookup v).isSome }]
      build := fun given operands =>
        if operands.isEmpty then
          (formats.lookup (valueOr "table" "output" given)).map fun f => .manage p (.list f)
        else none }
  | "start" => some { build := onTargets .start p }
  | "stop" => some { build := onTargets .stop p }
  | "delete" => some { build := onTargets .delete p }
  | "add-volume" => some
    { options := [{ long := "file-system", arity := .single }]
      build := fun given operands => match operands with
        | [id, number, size] => (word32? number).map fun n =>
          .manage p (.addVolume id n size (valuesOf "file-system" given).getLast?)
        | _ => none }
  | "delete-volume" => some
    { build := fun _ operands => match operands with
        | [id, number] => (word32? number).map fun n => .manage p (.deleteVolume id n)
        | _ => none }
  | _ => none

/-- The grammar of the command that serves over HTTP. -/
def serveGrammar (environment : List (String × String)) : Grammar :=
  { options := [{ long := "addr", arity := .single }]
    build := fun given operands =>
      if operands.isEmpty then
        some (.serve (((valuesOf "addr" given).getLast?.or (environment.lookup "API_ADDR")).getD
          "0.0.0.0:8080"))
      else none }

/-- The protocol of a command. -/
def protocolOf? : String → Option Protocol
  | "iscsi" => some .iscsi
  | "nfs" => some .nfs
  | "nvme" => some .nvmeof
  | _ => none

/-! ## Whole command lines -/

/-- Reads the words of the innermost level, `outer` being the options of the levels above. -/
def innermost (environment : List (String × String)) (outer : List (List Given)) (g : Grammar)
    (words : List String) : Invocation :=
  let level : Level := { options := commonOptions ++ g.options }
  match level.scan words with
  | .read given operands _ =>
    match g.build given operands with
    | some command =>
      let given := outer ++ [given]
      if isEnvironmentPossible environment given then .run (settings environment given) command
      else .misuse
    | none => .misuse
  | _ => .misuse

/-- Reads the words after a protocol. -/
def belowProtocol (environment : List (String × String)) (outer : List (List Given))
    (p : Protocol) (words : List String) : Invocation :=
  let level : Level := { options := commonOptions, hasCommands := true }
  match level.scan words with
  | .read given [name] rest =>
    match grammar? p name with
    | some g => innermost environment (outer ++ [given]) g rest
    | none => .misuse
  | _ => .misuse

/-- **What a command line means**, given the variables of the environment. -/
def invocation (environment : List (String × String)) (words : List String) : Invocation :=
  let level : Level := { options := commonOptions, hasCommands := true, hasVersion := true }
  match level.scan words with
  | .misuse => .misuse
  | .version => .version
  | .read given [name] rest =>
    if name = "server" then innermost environment [given] (serveGrammar environment) rest
    else match protocolOf? name with
      | some p => belowProtocol environment [given] p rest
      | none => .misuse
  | .read .. => .misuse

end FailoverStorage.CommandLine

import FailoverStorage.Text.Numeral

/-!
# Errors

Every failure is one of a few causes.  A cause decides its kind, and the kind alone decides what a
caller sees: the exit status of the command line and the status of an HTTP answer.  Wrapping an
error with the phase that failed adds to its message and changes nothing else, which is what
`kind` and `isTransient` say by looking through `context`.
-/

namespace FailoverStorage

/-- **Why an operation failed.** -/
inductive Error where
  /-- The request is malformed; it is rejected before anything is called. -/
  | validation (reason : String)
  /-- Existing state is incompatible with the request. -/
  | conflict (reason : String)
  /-- A named object does not exist. -/
  | notFound (sort name : String)
  /-- The storage controller answered a request with a failure status. -/
  | refused (method path : String) (status : Nat) (reason : String)
  /-- None of the controllers answered. -/
  | noController (candidates : String)
  /-- A request could not be sent or its answer could not be read. -/
  | transport
  /-- A promoter configuration does not describe what it should. -/
  | promoter (reason : String)
  /-- A stored document is not a promoter configuration; a malformed agent line is reported. -/
  | document (agentLine : Option String)
  /-- A wait ended without its condition. -/
  | timeout (resource reason : String)
  /-- A step that cannot fail did. -/
  | internal (reason : String)
  /-- The settings of the gateway itself are unusable. -/
  | configuration (reason : String)
  /-- A failure together with the phase in which it arose. -/
  | context (phase : String) (cause : Error)
  deriving DecidableEq, Inhabited

/-- Coarse classification of an error. -/
inductive ErrorKind where
  | validation
  | conflict
  | notFound
  | timeout
  | backend
  | internal
  deriving DecidableEq

namespace Error

/-- The kind of an error, looking through the phases it is wrapped in. -/
def kind : Error → ErrorKind
  | validation _ => .validation
  | conflict _ => .conflict
  | notFound .. => .notFound
  | timeout .. => .timeout
  | refused .. | noController _ | transport | promoter _ | document _ => .backend
  | internal _ | configuration _ => .internal
  | context _ cause => cause.kind

/-- The error itself, without the phases it is wrapped in. -/
def root : Error → Error
  | context _ cause => cause.root
  | e => e

/-- Whether the error says that something does not exist. -/
def isNotFound (e : Error) : Bool := e.kind = .notFound

/-- Whether the same request may succeed later. -/
def isTransient : Error → Bool
  | transport | noController _ => true
  | refused _ _ status _ => 500 ≤ status
  | context _ cause => cause.isTransient
  | _ => false

/-- The text of an error, each phase in front of what failed in it. -/
def message : Error → String
  | validation reason => "validation failed: " ++ reason
  | conflict reason => reason
  | notFound sort name => "resource not found: " ++ sort ++ "/" ++ name
  | refused method path status reason =>
    "controller request failed: " ++ method ++ " " ++ path ++ " returned " ++ Text.decimal status
      ++ ": " ++ reason
  | noController candidates => "no reachable controller among: " ++ candidates
  | transport => "HTTP transport error"
  | promoter reason => "unknown promoter config: " ++ reason
  | document none => "TOML parse error"
  | document (some agentLine) => "TOML parse error\n" ++ agentLine
  | timeout resource reason => "timed out waiting for resource " ++ resource ++ ": " ++ reason
  | internal reason => "internal error: " ++ reason
  | configuration reason => "configuration error: " ++ reason
  | context phase cause => phase ++ ": " ++ cause.message

/-- The messages of an error and of what caused it, outermost first. -/
def chain : Error → List String
  | context phase cause => (context phase cause).message :: cause.chain
  | e => [e.message]

end Error

/-- The status with which a process ends after an error of a kind. -/
def ErrorKind.exitCode : ErrorKind → Nat
  | .validation => 2
  | .conflict => 3
  | .notFound => 4
  | .timeout => 5
  | .backend => 6
  | .internal => 1

/-- The status with which a process ends after an error. -/
def Error.exitCode (e : Error) : Nat := e.kind.exitCode

/-- Adds the phase that failed to the error of a computation. -/
def inPhase {α : Type} (phase : String) : Except Error α → Except Error α
  | .ok a => .ok a
  | .error e => .error (.context phase e)

end FailoverStorage

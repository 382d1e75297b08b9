import FailoverStorage.Endpoint.Protocol
import FailoverStorage.Http.Percent
import FailoverStorage.Http.Request

/-!
# Routes

Each protocol has a collection of endpoints under `/api/v2`, and each endpoint has actions and
volumes under its own path.  A path matches a route segment by segment as it is written; what
stands for an identity or a number must not be empty and is decoded afterwards.
-/

namespace FailoverStorage.Rest

open Text

/-! ## Paths -/

/-- The segment of a protocol in paths. -/
def segment : Protocol → String
  | .iscsi => "iscsi"
  | .nfs => "nfs"
  | .nvmeof => "nvme-of"

/-- The protocol of a segment. -/
def protocolOf? (s : String) : Option Protocol :=
  [Protocol.iscsi, .nfs, .nvmeof].find? fun p => segment p = s

/-- **What a path leads to**, its parameters as they are written. -/
inductive Route where
  | health
  | collection (p : Protocol)
  | endpoint (p : Protocol) (id : String)
  | start (p : Protocol) (id : String)
  | stop (p : Protocol) (id : String)
  | volume (p : Protocol) (id number : String)
  deriving DecidableEq

/-- The route of the segments below a protocol. -/
def routeBelow (p : Protocol) : List String → Option Route
  | [] => some (.collection p)
  | [id] => some (.endpoint p id)
  | [id, "start"] => some (.start p id)
  | [id, "stop"] => some (.stop p id)
  | [id, "volume", number] => some (.volume p id number)
  | _ => none

/-- **The route of a path.** -/
def Route.ofPath? (path : String) : Option Route :=
  match (splitAll '/' path.toList).map String.ofList with
  | ["", "health"] => some .health
  | "" :: "api" :: "v2" :: s :: rest => do
    let p ← protocolOf? s
    if rest.all (!·.isEmpty) then routeBelow p rest else none
  | _ => none

/-! ## Operations -/

/-- What a request asks for, its identity as text. -/
inductive Operation where
  | health
  | list (p : Protocol)
  | create (p : Protocol)
  | get (p : Protocol) (id : String)
  | delete (p : Protocol) (id : String)
  | start (p : Protocol) (id : String)
  | stop (p : Protocol) (id : String)
  | addVolume (p : Protocol) (id : String) (number : UInt32)
  | deleteVolume (p : Protocol) (id : String) (number : UInt32)

/-- Why a request asks for nothing. -/
inductive Refusal where
  | noRoute
  | wrongMethod
  | badParameter

/-- A parameter that stands for an identity. -/
def identityParameter (s : String) : Except Refusal String :=
  match Http.percentDecode? s with
  | some id => .ok id
  | none => .error .badParameter

/-- A parameter that stands for the number of a volume. -/
def numberParameter (s : String) : Except Refusal UInt32 :=
  match (Http.percentDecode? s).bind word32? with
  | some n => .ok n
  | none => .error .badParameter

/-- The operation that a method means on a route.  `HEAD` means the same as `GET`. -/
def Route.operation : Route → (method : String) → Except Refusal Operation
  | .health, "GET" | .health, "HEAD" => .ok .health
  | .collection p, "GET" | .collection p, "HEAD" => .ok (.list p)
  | .collection p, "POST" => .ok (.create p)
  | .endpoint p id, "GET" | .endpoint p id, "HEAD" => (identityParameter id).map (.get p)
  | .endpoint p id, "DELETE" => (identityParameter id).map (.delete p)
  | .start p id, "POST" => (identityParameter id).map (.start p)
  | .stop p id, "POST" => (identityParameter id).map (.stop p)
  | .volume p id number, "PUT" => do
    return .addVolume p (← identityParameter id) (← numberParameter number)
  | .volume p id number, "DELETE" => do
    return .deleteVolume p (← identityParameter id) (← numberParameter number)
  | _, _ => .error .wrongMethod

/-- **The operation that a request asks for.** -/
def operation (r : Http.Request) : Except Refusal Operation :=
  match Route.ofPath? r.path with
  | some route => route.operation r.method
  | none => .error .noRoute

end FailoverStorage.Rest

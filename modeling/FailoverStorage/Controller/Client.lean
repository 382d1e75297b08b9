import FailoverStorage.Controller.Address
import FailoverStorage.Controller.Wire
import FailoverStorage.Gateway.Backend
import FailoverStorage.Json.Reader

/-!
# Calling a controller

A client sends requests to one controller and reads its answers.  How a request travels is left to
a transport, which either brings back an answer or fails.  An answer with status 404 means that an
object does not exist; any other failure status carries a report.
-/

namespace FailoverStorage

/-- A request to a controller. -/
structure Call where
  method : String
  url : String
  body : Option Json := none

/-- The answer of a controller. -/
structure Reply where
  status : Nat
  body : String

/-- **A way to reach controllers**: nothing comes back if none is reached. -/
abbrev Transport (σ : Type) : Type := Call → StateM σ (Option Reply)

/-- A client of one controller. -/
structure Controller (σ : Type) where
  transport : Transport σ
  /-- The address of the controller, without slashes at its end. -/
  address : String

namespace Controller

variable {σ : Type}

open Json

/-- The client of the controller at an address. -/
def forAddress (transport : Transport σ) (address : String) : Controller σ :=
  { transport, address := String.ofList (Text.dropTrailing '/' address.toList) }

/-! ## Calls -/

/-- Decodes a text that holds one value and nothing else. -/
def decodeWhole {α : Type} (decode : Decoder α) (body : String) : Option α :=
  let (v, rest) := Json.ofText body
  match decode v with
  | .ok a => if (skipSpace rest).isEmpty then some a else none
  | .error _ => none

/-- The report in the body of a failure: the messages of its entries, or else the body itself. -/
def report (body : String) : String :=
  match decodeWhole (Decode.list decodeMessage) body with
  | some (m :: ms) => Text.joinWith "; " (m :: ms)
  | _ => String.ofList (Text.trim body.toList)

/-- **Sends a request** and returns the body of the answer. -/
def call (c : Controller σ) (method path : String) (body : Option Json := none) :
    Action σ String := do
  let reply ← c.transport { method, url := c.address ++ path, body }
  match reply with
  | none => throw .transport
  | some reply =>
    if reply.status = 404 then throw (.notFound "linstor-object" path)
    else if 200 ≤ reply.status ∧ reply.status < 300 then return reply.body
    else throw (.refused method path reply.status (report reply.body))

/-- Reads an object. -/
def read {α : Type} (c : Controller σ) (path : String) (decode : Decoder α) : Action σ α := do
  match decodeWhole decode (← c.call "GET" path) with
  | some a => return a
  | none => throw .transport

/-- Reads an object that may not exist. -/
def read? {α : Type} (c : Controller σ) (path : String) (decode : Decoder α) :
    Action σ (Option α) :=
  tryCatch (some <$> c.read path decode) fun e => if e.isNotFound then return none else throw e

/-- Sends a request whose answer does not matter. -/
def send (c : Controller σ) (method path : String) (body : Option Json := none) :
    Action σ Unit := do
  let _ ← c.call method path body

/-! ## Choosing a controller -/

/-- The first of several controllers that answers. -/
def firstAnswering (transport : Transport σ) :
    (addresses : List String) → Action σ (Option (Controller σ))
  | [] => return none
  | address :: rest => do
    let c := Controller.forAddress transport address
    let answered ← ((fun _ => true) <$> c.call "GET" "/v1/controller/version").getD false
    if answered then return some c else firstAnswering transport rest

/-- **Connects to the first of several controllers that answers.** -/
def connect (transport : Transport σ) (addresses : List String) : Action σ (Controller σ) := do
  match ← firstAnswering transport addresses with
  | some c => return c
  | none => throw (.noController (Text.joinWith "," addresses))

end Controller

end FailoverStorage

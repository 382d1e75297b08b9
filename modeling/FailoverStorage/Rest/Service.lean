import FailoverStorage.Endpoint.Json
import FailoverStorage.Gateway.Reconciler
import FailoverStorage.Json.Reader
import FailoverStorage.Rest.Route
import FailoverStorage.Volume.Size

/-!
# The service over HTTP

Every operation of the gateway is offered over HTTP.  An error is answered with a status that
follows from its kind and a JSON object that names the kind and carries the message.  A body that
cannot be taken in is refused before the gateway is asked.
-/

namespace FailoverStorage.Rest

open Json Json.Decode

/-! ## Answers -/

/-- The body of an answer. -/
inductive Content where
  | json (v : Json)
  | text (s : String)
  | empty

/-- **An answer.** -/
structure Response where
  status : Nat
  content : Content := .empty

/-- The status that answers an error of a kind. -/
def statusOf : ErrorKind → Nat
  | .validation => 400
  | .conflict => 409
  | .notFound => 404
  | .timeout => 504
  | .backend => 502
  | .internal => 500

/-- The name of a kind of error in answers. -/
def kindName : ErrorKind → String
  | .validation => "validation_failed"
  | .conflict => "conflict"
  | .notFound => "not_found"
  | .timeout => "timeout"
  | .backend => "backend_error"
  | .internal => "internal_error"

/-- The answer to an error. -/
def errorResponse (e : Error) : Response :=
  { status := statusOf e.kind
    content := .json (.object [("error", .text (kindName e.kind)), ("message", .text e.message)]) }

/-- The answer to a request that asks for nothing. -/
def refusalResponse : Refusal → Response
  | .noRoute => { status := 404 }
  | .wrongMethod => { status := 405 }
  | .badParameter => { status := 400 }

/-- The answer with an endpoint, which may turn out not to exist. -/
def endpointResponse {p : Protocol} (id : p.Identity) (e : Option (Endpoint p)) : Response :=
  match e with
  | some e => { status := 200, content := .json e.toJson }
  | none => errorResponse (.notFound p.label (Protocol.identityText id))

/-! ## Bodies -/

/-- The size and the file system of a volume to add. -/
structure VolumeBody where
  size : String
  fileSystem : Option String

/-- Decodes the body that asks for a volume. -/
def VolumeBody.decode : Decoder VolumeBody :=
  record [field "size" Decode.text fun (d : Option String × Option String) s => (some s, d.2),
      field "fileSystem" (optional Decode.text) fun d s => (d.1, s)] (none, none)
    fun d => d.1.map fun size => { size, fileSystem := d.2 }

/-- What a body holds, or the status that refuses it. -/
def bodyOf {α : Type} (decode : Decoder α) (r : Http.Request) : Except Nat α :=
  if !r.isJson then .error 415
  else match decode (Json.ofText r.body).1 with
    | .ok a => .ok a
    | .error .malformed => .error 400
    | .error .mismatch => .error 422

/-! ## Operations -/

variable {σ : Type}

/-- Answers with the outcome of an action. -/
def answer {α : Type} (action : Action σ α) (respond : α → Response) : StateM σ Response := do
  match ← action.run with
  | .ok a => return respond a
  | .error e => return errorResponse e

/-- Runs an action on the identity that a text denotes and answers with its outcome. -/
def answerFor {α : Type} (p : Protocol) (id : String) (action : p.Identity → Action σ α)
    (respond : p.Identity → α → Response) : StateM σ Response :=
  answer (do
    let id ← Action.ofExcept (p.parseIdentity id)
    return (id, ← action id)) fun (id, a) => respond id a

/-- Carries out an operation. -/
def perform (g : Gateway σ) (r : Http.Request) : Operation → StateM σ Response
  | .health => return { status := 200, content := .text "ok" }
  | .list p =>
    answer (g.list p) fun es => { status := 200, content := .json (.array (es.map (·.toJson))) }
  | .create p =>
    match bodyOf (Endpoint.decode p) r with
    | .error status => return { status }
    | .ok requested =>
      answer (g.create requested) fun e => { status := 201, content := .json e.toJson }
  | .get p id => answerFor p id g.get endpointResponse
  | .delete p id => answerFor p id g.delete fun _ _ => { status := 204 }
  | .start p id => answerFor p id g.start endpointResponse
  | .stop p id => answerFor p id g.stop endpointResponse
  | .addVolume p id n =>
    match bodyOf VolumeBody.decode r with
    | .error status => return { status }
    | .ok body =>
      answerFor p id (fun id => do
        let sizeKib ← Action.ofExcept (Size.parse body.size)
        g.addVolume id { number := n, sizeKib, fileSystem := body.fileSystem }) endpointResponse
  | .deleteVolume p id n =>
    answerFor p id (fun id => g.deleteVolume id n) endpointResponse

/-- **Answers a request.**  The answer to `HEAD` has no body. -/
def respond (g : Gateway σ) (r : Http.Request) : StateM σ Response := do
  let response ← match operation r with
    | .ok op => perform g r op
    | .error refusal => pure (refusalResponse refusal)
  return if r.method = "HEAD" then { response with content := .empty } else response

end FailoverStorage.Rest

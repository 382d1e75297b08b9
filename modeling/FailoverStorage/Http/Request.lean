import FailoverStorage.Http.MediaType
import FailoverStorage.Http.Target

/-!
# Requests

A request has a method, a target of which only the path matters, and perhaps a body with a content
type.  `make?` refuses what cannot be sent as a request.
-/

namespace FailoverStorage.Http

/-- **A request.** -/
structure Request where
  method : String
  path : String
  contentType : Option String := none
  body : String := ""

/-- The request of the given parts, if they can make one up. -/
def Request.make? (method target : String) (contentType : Option String) (body : String) :
    Option Request := do
  let path ← Target.path? target
  if method.isEmpty || !method.toList.all isToken then none
  else if !((contentType.map fun t => t.toList.all isHeaderValue).getD true) then none
  else return { method, path := String.ofList path, contentType, body }

/-- Whether the request says that its body is JSON. -/
def Request.isJson (r : Request) : Bool := (r.contentType.map MediaType.isJson).getD false

end FailoverStorage.Http

import Testbed.Http.Url
import Testbed.Json.Value
/-!
# Requests and responses
-/

namespace Testbed.Http

structure Request where
  method : String
  url : Url
  headers : List (String × String)
  body : Option Json

structure Response where
  status : Nat
  /-- What was sent after the head of the response. -/
  body : List UInt8
  deriving DecidableEq, Repr

/-- Statuses of responses that are over with their head. -/
def hasNoContent (status : Nat) : Bool := status < 200 || status = 204 || status = 304

/-- The document that a response brings. -/
def Response.content (r : Response) : List UInt8 := if hasNoContent r.status then [] else r.body

end Testbed.Http

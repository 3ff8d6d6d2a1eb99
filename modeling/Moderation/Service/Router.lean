import Moderation.Service.MediaType
import Moderation.Service.Message
import Moderation.Wire.Inbound
/-!
# The HTTP service

Commands, reports, rules of policy lists and changes in membership are posted to the service as
JSON.  A request is first routed by its path and its method; then its body has to be JSON by its
media type, not too large, and decode into what the path takes; then the message itself is looked
at.  Only a message that passes all of this has an effect.
-/

namespace Moderation

/-- A request.  Its body is a text: a body that is not UTF-8 has no place here.  Such a body is not
JSON, so it is refused, unless the bytes that are amiss stand in a part that is skipped, which is as
if other characters stood there. -/
structure Request where
  method : String
  path : String
  contentType : Option String
  body : String

namespace Service

variable {σ : Type} (ctx : Context σ)

/-- What the service answers to. -/
inductive Route where
  | health
  | commands
  | reports
  | policies
  | memberships
  deriving DecidableEq, Repr

/-- The route of a path. -/
def Route.ofPath? : String → Option Route
  | "/v1/healthz" => some .health
  | "/v1/commands" => some .commands
  | "/v1/reports" => some .reports
  | "/v1/policies" => some .policies
  | "/v1/memberships" => some .memberships
  | _ => none

/-- Whether a route takes a method. -/
def Route.takes (r : Route) (method : String) : Bool :=
  match r with
  | .health => method = "GET" || method = "HEAD"
  | _ => method = "POST"

/-- A path without its query. -/
def barePath (path : String) : String :=
  String.ofList (path.toList.takeWhile fun c => c ≠ '?' && c ≠ '#')

/-- The size of the largest body, in bytes. -/
def bodyLimit : Nat := 2097152

/-- What the body of a request holds, or the status that the request is refused with. -/
def readBody {α : Type} (d : Json.Decoder α) (r : Request) : Except Nat α :=
  if !(r.contentType.any MediaType.isJson) then .error 415
  else if bodyLimit < r.body.utf8ByteSize then .error 413
  else
    match d.ofText r.body with
    | .ok a => .ok a
    | .error .malformed => .error 400
    | .error .mistyped => .error 422

/-- Takes the message in a request, or refuses it. -/
def takeIn {α : Type} (d : Json.Decoder α) (kind : α → Message) (r : Request) : Act σ Response :=
  match readBody d r with
  | .ok a => take ctx (kind a)
  | .error status => return { status }

/-- Answers a request on a route that takes its method. -/
def answer (r : Request) : Route → Act σ Response
  | .health => return { status := 200, body := .text (if r.method = "HEAD" then "" else "ok") }
  | .commands => takeIn ctx CommandMessage.decoder .command r
  | .reports => takeIn ctx Report.decoder .report r
  | .policies => takeIn ctx PolicyRecord.decoder .policy r
  | .memberships => takeIn ctx MembershipUpdate.decoder .membership r

/-- Answers a request. -/
def handle (r : Request) : Act σ Response :=
  match Route.ofPath? (barePath r.path) with
  | none => return { status := 404 }
  | some route => if route.takes r.method then answer ctx r route else return { status := 405 }

end Service
end Moderation

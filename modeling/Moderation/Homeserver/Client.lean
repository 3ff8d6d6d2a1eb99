import Moderation.Config.Basic
import Moderation.Homeserver.Basic
import Moderation.Url.Basic
import Moderation.Wire.Policy
/-!
# The homeserver over HTTP

The client makes each call to the homeserver one request to its client-server interface, whose path
ends with segments that name what the call is about, and reads the answer off the response.  A
response outside of the two hundreds is a refusal, whose body may say more.

A **network** carries requests; it has a state of its own, answers a request or says why it could
not be made, and hands out identifiers that nobody has seen before.
-/

namespace Moderation

/-- The methods of requests. -/
inductive HttpMethod where
  | get
  | put
  | post
  deriving DecidableEq, Repr

/-- The name of a method. -/
def HttpMethod.name : HttpMethod → String
  | .get => "GET"
  | .put => "PUT"
  | .post => "POST"

/-- A request, made with a token; its body, if it has one, is JSON. -/
structure HttpRequest where
  method : HttpMethod
  url : Url
  token : String
  body : Option Json := none

/-- A response. -/
structure HttpResponse where
  status : Nat
  body : String
  deriving DecidableEq, Repr

/-- What carries requests, over its states. -/
structure Network (σ : Type) where
  /-- Makes a request. -/
  send (r : HttpRequest) : StateM σ (Except String HttpResponse)
  /-- Hands out an identifier. -/
  freshId : StateM σ String

namespace HttpResponse

/-- Whether a request succeeded. -/
def isSuccess (r : HttpResponse) : Bool := r.status / 100 = 2

/-- A text in the body of a response that says why a request was refused. -/
def said? (r : HttpResponse) (name : String) : Option String := do
  let body ← Json.parse? r.body
  let value ← body.get? name
  value.string?

/-- The refusal that a response is. -/
def refusal (r : HttpResponse) : HomeserverError :=
  .http r.status ((r.said? "errcode").getD "M_UNKNOWN") ((r.said? "error").getD "")

/-- Reads the answer to a call off a response. -/
def answer {α : Type} (read : String → Option α) (r : HttpResponse) : Answer α :=
  if !r.isSuccess then .error r.refusal
  else match read r.body with
    | some a => .ok a
    | none => .error (.decode "error decoding response body")

/-- A text that a body holds under a name. -/
def textUnder (name body : String) : Option String :=
  ((Json.Decoder.record false (Json.Fields.required name Json.Decoder.string)).ofText body).toOption

/-- Whether a body is JSON, whatever it says. -/
def anything (body : String) : Option Unit := (Json.parse? body).map fun _ => ()

end HttpResponse

/-- A client of a homeserver. -/
structure HomeserverClient where
  base : Url
  token : String
  managementRoom : String

namespace HomeserverClient

/-- The client that a configuration describes. -/
def ofConfig (c : HomeserverConfig) : Except UrlError HomeserverClient :=
  (Url.ofText c.url).map fun base =>
    { base, token := c.accessToken, managementRoom := c.managementRoom }

/-- The text about a URL that is no URL. -/
def invalidUrlText (e : UrlError) : String := "invalid homeserver.url: " ++ e.message

/-- The text about a URL that segments cannot be added to. -/
def noBaseText : String := "homeserver url cannot be a base"

/-- What every path begins with, after that of the base. -/
def rootSegments : List String := ["_matrix", "client"]

/-- The mark of success. -/
def successMark : String := String.ofList [Char.ofNat 0x2705]

variable {σ α : Type} (client : HomeserverClient)

/-- The URL of a call. -/
def endpoint? (segments : List String) : Option Url :=
  client.base.extend? (rootSegments ++ segments)

/-- The segments that a publication goes to. -/
def publishSegments (listRoom : String) (kind : EntityKind) (stateKey : String) : List String :=
  ["v3", "rooms", listRoom, "state", kind.eventType, stateKey]

/-- The segments that a message goes to. -/
def messageSegments (type id : String) : List String :=
  ["v3", "rooms", client.managementRoom, "send", type, id]

/-- The content of a notice. -/
def noticeContent (text : String) : Json :=
  .object [("msgtype", .string "m.notice"), ("body", .string text)]

/-- The content of a reaction to an event. -/
def reactionContent (event : String) : Json :=
  .object [("m.relates_to", .object
    [("rel_type", .string "m.annotation"), ("event_id", .string event),
      ("key", .string successMark)])]

variable (network : Network σ)

/-- Makes a call. -/
def call (method : HttpMethod) (segments : List String) (body : Option Json)
    (read : String → Option α) : StateM σ (Answer α) := do
  match client.endpoint? segments with
  | none => return .error (.transport noBaseText)
  | some url =>
    match ← network.send { method, url, token := client.token, body } with
    | .error text => return .error (.transport text)
    | .ok response => return response.answer read

/-- Sends a message to the management room. -/
def sendMessage (type : String) (content : Json) : StateM σ (Answer String) := do
  let id ← network.freshId
  client.call network .put (client.messageSegments type id) (some content)
    (HttpResponse.textUnder "event_id")

/-- The homeserver that a client talks to. -/
def homeserver : Homeserver σ where
  publish listRoom kind stateKey content :=
    client.call network .put (publishSegments listRoom kind stateKey) (some content.toJson)
      (HttpResponse.textUnder "event_id")
  kick room user reason :=
    client.call network .post ["v3", "rooms", room, "kick"]
      (some (.object [("user_id", .string user), ("reason", .string reason)])) HttpResponse.anything
  join room :=
    client.call network .post ["v3", "join", room] (some (.object []))
      (HttpResponse.textUnder "room_id")
  leave room :=
    client.call network .post ["v3", "rooms", room, "leave"] (some (.object []))
      HttpResponse.anything
  resolveAlias name :=
    client.call network .get ["v3", "directory", "room", name] none
      (HttpResponse.textUnder "room_id")
  redact room user reason :=
    client.call network .post
      ["unstable", "org.matrix.msc4194", "rooms", room, "redact", "user", user]
      (some (.object [("reason", .string reason)])) HttpResponse.anything
  eventSender room event :=
    client.call network .get ["v3", "rooms", room, "event", event] none
      (HttpResponse.textUnder "sender")
  notice text := do
    let _ ← client.sendMessage network "m.room.message" (noticeContent text)
  react event := do
    let _ ← client.sendMessage network "m.reaction" (reactionContent event)

end HomeserverClient
end Moderation

import Moderation.Moderator.Commands
import Moderation.Moderator.Reports
import Moderation.Wire.Outcome
/-!
# What the service takes

A **message** is a command, a report, a rule of a policy list or a change in membership.  One that
lacks something is refused and changes nothing; the others are handed on.  What the service does is
a run: a list of messages, taken one after another.
-/

namespace Moderation

/-- A message. -/
inductive Message where
  | command (c : CommandMessage)
  | report (r : Report)
  | policy (r : PolicyRecord)
  | membership (u : MembershipUpdate)

/-- The body of a response. -/
inductive ResponseBody where
  | none
  | text (s : String)
  | json (j : Json)

/-- A response. -/
structure Response where
  status : Nat
  body : ResponseBody := .none

namespace Service

variable {σ : Type} (ctx : Context σ)

/-- An error of the service itself. -/
def failure (status : Nat) (errcode error : String) : Response where
  status := status
  body := .json { errcode, error : ErrorBody }.toJson

/-- A message that lacks something. -/
def invalid (error : String) : Response := failure 400 "M_INVALID_PARAM" error

/-- A message was taken and there is nothing to say. -/
def noContent : Response := { status := 204 }

/-- Takes a command message. -/
def takeCommand (c : CommandMessage) : Act σ Response := do
  if c.eventId.isEmpty || c.sender.isEmpty then return invalid "event_id and sender are required"
  else
    let _ ← Commands.handle ctx c
    return noContent

/-- Takes a report. -/
def takeReport (r : Report) : Act σ Response := do
  if r.reporter.isEmpty then return invalid "reporter is required"
  else
    match ← Reports.handle ctx r with
    | .ok outcome => return { status := 200, body := .json outcome.toJson }
    | .error e => return failure e.status e.errcode e.message

/-- Whether a record names one user openly. -/
def namesUser (r : PolicyRecord) : Bool :=
  r.kind = .user && !r.content.entity.isEmpty && !Glob.isGlob r.content.entity

/-- Takes a rule of a policy list; a user it names is remembered. -/
def takePolicy (r : PolicyRecord) : Act σ Response := do
  if r.listRoom.isEmpty || r.stateKey.isEmpty then
    return invalid "list_room and state_key are required"
  else
    modify fun w =>
      let store := if namesUser r then w.store.remember r.content.entity else w.store
      { w with store := store.publish r }
    return noContent

/-- Takes a change in membership; those who joined are remembered. -/
def takeMembership (u : MembershipUpdate) : Act σ Response := do
  if u.roomId.toList.head? ≠ some '!' then return invalid "room_id must be a room ID"
  else
    modify fun w =>
      { w with
        store := u.joined.foldl (fun store user => store.remember user) w.store
        membership := w.membership.apply u }
    return noContent

/-- Takes a message. -/
def take : Message → Act σ Response
  | .command c => takeCommand ctx c
  | .report r => takeReport ctx r
  | .policy r => takePolicy r
  | .membership u => takeMembership u

/-- Takes messages, one after another. -/
def run (messages : List Message) : Act σ (List Response) := messages.mapM (take ctx)

end Service
end Moderation

import Moderation.Policy.Record
/-!
# The homeserver

What the bot asks of its homeserver.  A homeserver has a state of its own that every call may
change, so a call is an action on that state; it answers with what was asked for or says what went
wrong.  Notices and reactions go to the management room, and nobody waits for their success.
-/

namespace Moderation

/-- Why a call to the homeserver failed: it could not be made, it was refused, or its answer made no
sense. -/
inductive HomeserverError where
  | transport (text : String)
  | http (status : Nat) (errcode text : String)
  | decode (text : String)
  deriving DecidableEq, Repr

/-- The text of a failure. -/
def HomeserverError.message : HomeserverError → String
  | .transport text => s!"request failed: {text}"
  | .http status errcode text => s!"{errcode} (HTTP {status}): {text}"
  | .decode text => s!"invalid response: {text}"

/-- The answer to a call. -/
abbrev Answer (α : Type) := Except HomeserverError α

/-- The calls a homeserver takes, over its states. -/
structure Homeserver (σ : Type) where
  /-- Sends a content to a list under a state key; answers with the event. -/
  publish (listRoom : String) (kind : EntityKind) (stateKey : String)
    (content : PolicyContent) : StateM σ (Answer String)
  /-- Removes a user from a room. -/
  kick (room user reason : String) : StateM σ (Answer Unit)
  /-- Joins a room by its identifier or an alias; answers with the room. -/
  join (room : String) : StateM σ (Answer String)
  /-- Leaves a room. -/
  leave (room : String) : StateM σ (Answer Unit)
  /-- Finds the room that an alias names. -/
  resolveAlias (name : String) : StateM σ (Answer String)
  /-- Takes back what a user has written in a room. -/
  redact (room user reason : String) : StateM σ (Answer Unit)
  /-- Finds out who sent an event. -/
  eventSender (room event : String) : StateM σ (Answer String)
  /-- Shows a notice in the management room. -/
  notice (text : String) : StateM σ Unit
  /-- Marks an event in the management room as done. -/
  react (event : String) : StateM σ Unit

end Moderation

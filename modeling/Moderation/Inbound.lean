import Moderation.Trust
/-!
# What arrives from outside

The messages that reach the bot through its bridge: a command typed in the management room, a
report, and a change in the members of a room.  Rules of policy lists arrive as policy records.
-/

namespace Moderation

/-- A message that may hold a command, with how it was sent. -/
structure CommandMessage where
  eventId : String
  sender : String
  body : String
  encrypted : Bool := false
  trust : Trust := .unset
  deriving DecidableEq, Repr

/-- A report, about a user, a room or an event in a room. -/
structure Report where
  reporter : String
  targetUser : Option String := none
  roomId : Option String := none
  eventId : Option String := none
  reason : String
  deriving DecidableEq, Repr

/-- Who joined and who left a room, and its name if that is known. -/
structure MembershipUpdate where
  roomId : String
  name : Option String := none
  joined : List String := []
  left : List String := []
  deriving DecidableEq, Repr

end Moderation

import Moderation.Moderator.KickWindow
/-!
# The kicks of several users

Users are kicked one after another.  The kicks of a user **start** when none are under way, go on at
the same time as each other, and **finish** when the answers of all the rooms have been taken; then
it is known what came of them.  The homeserver sees every kick begin and end, but for a dry run, in
which it is not asked and all goes well.
-/

namespace Moderation

/-- Something that the homeserver sees of a kick. -/
inductive KickCall where
  | begun (user room : String)
  | ended (user room : String)
  deriving DecidableEq, Repr

/-- What the homeserver sees of an event among the kicks of a user. -/
def KickWindow.call? (user : String) (w : KickWindow) : KickEvent → Option KickCall
  | .begin => w.rooms.head?.map (.begun user)
  | .answer position => w.begun[position]?.map fun (room, _) => .ended user room
  | .take => none

/-- The kicks of several users at some moment: the users still to come, each with its rooms; the
user whose kicks are under way, if there is one; the outcomes of the users before; and what the
homeserver has seen, in order. -/
structure KickSweep where
  users : List (String × List String)
  current : Option (String × KickWindow) := none
  outcomes : List KickOutcome := []
  calls : List KickCall := []

/-- What happens to the kicks of several users. -/
inductive SweepEvent where
  | start
  | kick (e : KickEvent)
  | finish
  deriving DecidableEq, Repr

namespace KickSweep

variable (limit : Nat) (dryRun : Bool) (answers : String → String → Answer Unit)

/-- The answer to the kick of a user from a room. -/
def answer (user room : String) : Answer Unit := if dryRun then .ok () else answers user room

/-- The kicks after an event, if it can happen. -/
def step (s : KickSweep) : SweepEvent → Option KickSweep
  | .start =>
    match s.current, s.users with
    | none, (user, rooms) :: users => some { s with users, current := some (user, { rooms }) }
    | _, _ => none
  | .kick e =>
    match s.current with
    | some (user, window) =>
      (window.step limit (answer dryRun answers user) e).map fun next =>
        { s with
          current := some (user, next)
          calls := s.calls ++ if dryRun then [] else (window.call? user e).toList }
    | none => none
  | .finish =>
    match s.current with
    | some (user, window) =>
      if window.isOver then
        some { s with current := none, outcomes := s.outcomes ++ [.ofAnswers user window.taken] }
      else none
    | none => none

/-- The kicks after some events. -/
def run (s : KickSweep) (events : List SweepEvent) : Option KickSweep :=
  events.foldlM (step limit dryRun answers) s

/-- Whether all users have been kicked. -/
def isOver (s : KickSweep) : Bool := s.users.isEmpty && s.current.isNone

end KickSweep
end Moderation

import Moderation.Moderator.Kick
/-!
# Kicks at the same time

The kicks of one user go to several rooms at once, but not to more than a limit.  A kick **begins**
in the next room, is **answered** some time later, and its answer is **taken** when those of all the
rooms before it have been; only then does it stop counting towards the limit.  So the answers come
out in the order of the rooms, however the homeserver orders them.
-/

namespace Moderation

/-- The kicks of one user at some moment: the rooms still to come, those in which a kick has begun,
with the answer if there is one, and the answers taken. -/
structure KickWindow where
  rooms : List String
  begun : List (String × Option (Answer Unit)) := []
  taken : List (String × Answer Unit) := []

/-- What happens to the kicks of one user; those that have begun are counted from the first. -/
inductive KickEvent where
  | begin
  | answer (position : Nat)
  | take
  deriving DecidableEq, Repr

namespace KickWindow

variable (limit : Nat) (answers : String → Answer Unit)

/-- The kicks after an event, if it can happen.  A limit of zero is taken for one. -/
def step (w : KickWindow) : KickEvent → Option KickWindow
  | .begin =>
    match w.rooms with
    | room :: rooms =>
      if w.begun.length < max limit 1 then
        some { w with rooms, begun := w.begun ++ [(room, none)] }
      else none
    | [] => none
  | .answer position =>
    match w.begun[position]? with
    | some (room, none) => some { w with begun := w.begun.set position (room, some (answers room)) }
    | _ => none
  | .take =>
    match w.begun with
    | (room, some answer) :: begun => some { w with begun, taken := w.taken ++ [(room, answer)] }
    | _ => none

/-- The kicks after some events. -/
def run (w : KickWindow) (events : List KickEvent) : Option KickWindow :=
  events.foldlM (step limit answers) w

/-- Whether the answers of all rooms have been taken. -/
def isOver (w : KickWindow) : Bool := w.rooms.isEmpty && w.begun.isEmpty

/-- The rooms in which a kick has begun, in order. -/
def calls (w : KickWindow) : List String := w.taken.map (·.1) ++ w.begun.map (·.1)

end KickWindow
end Moderation

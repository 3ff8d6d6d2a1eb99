import Moderation.Moderator.World
/-!
# Kicks

A kick goes to every user that matches a pattern, in every room that is looked after and holds the
user.  Too many users at once need to be forced.  A room where it fails does not keep it from the
others; failures are named room by room, and each user has an outcome of its own.
-/

namespace Moderation

/-- What came of kicking one user: the rooms, how many of them succeeded, and what failed in the
others. -/
structure KickOutcome where
  user : String
  rooms : List String
  succeeded : Nat
  failures : List (String × HomeserverError)
  deriving DecidableEq, Repr

/-- What came of a kick. -/
inductive KickReport where
  | noMatch
  | needsForce (candidates : Nat)
  | executed (outcomes : List KickOutcome)
  deriving DecidableEq, Repr

namespace KickOutcome

/-- The outcome for a user, from the answers of the rooms in order. -/
def ofAnswers (user : String) (answers : List (String × Answer Unit)) : KickOutcome where
  user := user
  rooms := answers.map (·.1)
  succeeded := answers.countP fun (_, answer) => answer.toOption.isSome
  failures := answers.filterMap fun (room, answer) =>
    match answer with
    | .ok () => none
    | .error e => some (room, e)

/-- The result of an outcome in the audit log. -/
def result (o : KickOutcome) : String :=
  if o.failures.isEmpty then "ok" else if o.succeeded = 0 then "failed" else "partial"

/-- How many of the rooms succeeded, in words. -/
def detail (o : KickOutcome) (dryRun : Bool) : String :=
  s!"{o.succeeded} of {o.rooms.length} rooms" ++ if dryRun then " (dry run)" else ""

/-- The notice about a room where it failed. -/
def failureNotice (o : KickOutcome) (room : String) (e : HomeserverError) : String :=
  s!"Failed to kick `{o.user}` from `{room}`: {e.message}"

/-- The notice about the whole outcome. -/
def notice (o : KickOutcome) : String :=
  s!"Kicked `{o.user}` from {o.succeeded} rooms: " ++
    ", ".intercalate (o.rooms.map fun room => s!"[{room}]({Entity.link room})")

end KickOutcome

namespace Kick

variable {σ : Type} (ctx : Context σ)

/-- Kicks a user from one room, or only says so in a dry run. -/
def fromRoom (user reason room : String) : Act σ (String × Answer Unit) := do
  if ctx.settings.dryRun then return (room, .ok ())
  else
    let answer ← Act.perform (.kick room user reason) (ctx.homeserver.kick room user reason)
    return (room, answer)

/-- Kicks a user from some rooms and tells the moderators. -/
def user (reason actor : String) (user : String) (rooms : List String) : Act σ KickOutcome := do
  let answers ← rooms.mapM (fromRoom ctx user reason)
  let outcome := KickOutcome.ofAnswers user answers
  outcome.failures.forM fun (room, e) => Act.notice ctx (outcome.failureNotice room e)
  Act.notice ctx outcome.notice
  let moment ← Act.moment ctx
  Act.audit
    { id := moment.auditId, action := "kick", result := outcome.result, actor, entity := user,
      detail := some (outcome.detail ctx.settings.dryRun), time := moment.auditTime }
  return outcome

/-- Kicks every user that matches a pattern and is in some room. -/
def run (pattern : Glob) (reason : String) (force : Bool) (actor : String) : Act σ KickReport := do
  let membership := (← get).membership
  let users := membership.findUsers pattern none
  if users.isEmpty then
    Act.notice ctx s!"No users matching `{pattern.pattern}` found in any rooms"
    return .noMatch
  else if requiresForce users.length ctx.settings.kickThreshold force then
    Act.notice ctx <|
      s!"{users.length} users matching `{pattern.pattern}` found, " ++
        "use `--force` to kick all of them."
    return .needsForce users.length
  else
    let present := users.filter fun u => !(membership.roomsOf u).isEmpty
    return .executed (← present.mapM fun u => user ctx reason actor u (membership.roomsOf u))

end Kick
end Moderation

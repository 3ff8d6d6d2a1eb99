import Moderation.Command.Parser
import Moderation.Inbound
import Moderation.Moderator.Kick
import Moderation.Moderator.LookUp
import Moderation.Moderator.Mutation
/-!
# Carrying out commands

A command message passes the gate, is parsed and is carried out.  A command that succeeds is marked
by a reaction on its message, or answered by notices alone; one that fails is answered by one notice
with the reason.
-/

namespace Moderation

/-- What became of a command message. -/
inductive CommandStatus where
  | dropped
  | ignored
  | completed
  | failed
  deriving DecidableEq, Repr

/-- How the success of a command is shown. -/
inductive Acknowledgement where
  | reaction
  | quiet
  deriving DecidableEq, Repr

/-- Why a command failed. -/
inductive CommandError where
  | usage (e : Command.UsageError)
  | listNotFound (shortcode : String)
  | nothingToRemove (entity : String) (list : WatchedList)
  | invalidEntity (entity : String)
  | invalidPattern (pattern : String) (e : Glob.CompileError)
  | conflict (c : Conflict)
  | unpublished (change : Change) (e : HomeserverError)
  deriving DecidableEq

/-- What a change could not do when its publication failed. -/
def Change.attempt : Change → String
  | .ban _ _ _ => "send ban policy"
  | .reportBan _ => "send ban policy"
  | .unban _ => "send unban policy"
  | .remove _ => "remove policy"

/-- The text of an error. -/
def CommandError.message : CommandError → String
  | .usage e => e.message
  | .listNotFound shortcode => s!"List \"{shortcode}\" not found"
  | .nothingToRemove entity list =>
    s!"No rule banning `{entity}` found in [{list.name}]({Entity.link list.roomId})"
  | .invalidEntity entity => s!"Invalid entity `{entity}`"
  | .invalidPattern pattern e => s!"Invalid pattern `{pattern}`: {e.message}"
  | .conflict c => c.message
  | .unpublished change e => s!"Failed to {change.attempt}: {e.message}"

/-- What a mutation's failure means to a command: a removal that finds nothing names the list it
looked in. -/
def MutationFailure.toCommandError (m : Mutation) : MutationFailure → CommandError
  | .conflict (.nothingToRemove entity) => .nothingToRemove entity m.list
  | .conflict c => .conflict c
  | .unpublished e => .unpublished m.change e

namespace Commands

variable {σ : Type} (ctx : Context σ)

/-- The kind of an entity, or why there is none. -/
def classify (entity : String) : Except CommandError EntityKind :=
  match Entity.classify entity with
  | some kind => .ok kind
  | none => .error (.invalidEntity entity)

/-- The list with a short code, or why there is none. -/
def listNamed (shortcode : String) : Except CommandError WatchedList :=
  match ctx.listNamed shortcode with
  | some list => .ok list
  | none => .error (.listNotFound shortcode)

/-- The mutation that a command names: its list is looked for before its entity is classified. -/
def mutation (shortcode entity : String) (change : Change) : Except CommandError Mutation := do
  let list ← listNamed ctx shortcode
  let kind ← classify entity
  return { list, kind, entity, change }

/-- Carries out a change. -/
def mutate (shortcode entity : String) (change : Change) (actor : String) :
    Act σ (Except CommandError Acknowledgement) := do
  match mutation ctx shortcode entity change with
  | .error e => return .error e
  | .ok m =>
    match ← m.run ctx actor with
    | .ok _ => return .ok .reaction
    | .error e => return .error (e.toCommandError m)

/-- Joins a room. -/
def join (room : String) : Act σ Unit := do
  match ← Act.perform (.join room) (ctx.homeserver.join room) with
  | .ok _ => Act.notice ctx s!"Joined room \"{room}\""
  | .error e => Act.notice ctx s!"Failed to join room \"{room}\": {e.message}"

/-- Leaves a room, which may be named by an alias. -/
def leave (target : String) : Act σ Unit := do
  let room ← if target.toList.head? = some '#' then
      Act.perform (.resolveAlias target) (ctx.homeserver.resolveAlias target)
    else pure (.ok target)
  match room with
  | .error e => Act.notice ctx s!"Failed to resolve alias \"{target}\": {e.message}"
  | .ok room =>
    match ← Act.perform (.leave room) (ctx.homeserver.leave room) with
    | .ok () => Act.notice ctx s!"Left room \"{target}\""
    | .error e => Act.notice ctx s!"Failed to leave room \"{target}\": {e.message}"

/-- Takes back what a user has written in a room. -/
def redactIn (user reason room : String) : Act σ Unit := do
  match ← Act.perform (.redact room user reason) (ctx.homeserver.redact room user reason) with
  | .ok () => pure ()
  | .error e => Act.notice ctx s!"Failed to redact messages from `{user}` in `{room}`: {e.message}"

/-- Takes back what a user has written. -/
def redact (user reason : String) : Act σ Unit := do
  let rooms := (← get).membership.roomsOf user
  if rooms.isEmpty then Act.notice ctx s!"`{user}` is not in any protected rooms"
  rooms.forM (redactIn ctx user reason)

/-- Kicks by a pattern. -/
def kick (force : Bool) (pattern reason actor : String) :
    Act σ (Except CommandError Acknowledgement) := do
  match Glob.compile pattern with
  | .error e => return .error (.invalidPattern pattern e)
  | .ok glob =>
    match ← Kick.run ctx glob reason force actor with
    | .executed _ => return .ok .reaction
    | .noMatch => return .ok .quiet
    | .needsForce _ => return .ok .quiet

/-- Looks up an entity or what is behind a digest. -/
def lookUp (target : String) : Act σ (Except CommandError Acknowledgement) := do
  match ← LookUp.subject ctx target with
  | none => return .ok .quiet
  | some entity =>
    match classify entity with
    | .error e => return .error e
    | .ok kind =>
      LookUp.describe ctx kind entity
      return .ok .quiet

/-- Carries out a command. -/
def execute (actor : String) : Command → Act σ (Except CommandError Acknowledgement)
  | .join rooms => do
    rooms.forM (join ctx)
    return .ok .reaction
  | .leave targets => do
    targets.forM (leave ctx)
    return .ok .quiet
  | .redact user reason => do
    redact ctx user reason
    return .ok .reaction
  | .kick force pattern reason => kick ctx force pattern reason actor
  | .ban takedown hashed list target reason =>
    mutate ctx list target (.ban (if takedown then .takedown else .ban) reason hashed) actor
  | .remove kind list target => mutate ctx list target (.remove kind) actor
  | .addUnban list target reason => mutate ctx list target (.unban reason) actor
  | .lookUp target => lookUp ctx target

/-- Shows what came of a command. -/
def acknowledge (message : CommandMessage) :
    Except CommandError Acknowledgement → Act σ CommandStatus
  | .ok .reaction => do
    Act.react ctx message.eventId
    return .completed
  | .ok .quiet => return .completed
  | .error e => do
    Act.notice ctx e.message
    return .failed

/-- Handles a command message. -/
def handle (message : CommandMessage) : Act σ CommandStatus := do
  match gate message.encrypted message.trust ctx.settings.requireEncryption
      ctx.settings.leastTrust with
  | .dropUnencrypted => return .dropped
  | .dropUntrusted _ => return .dropped
  | .pass =>
    match Command.parse message.body with
    | .ok none => return .ignored
    | .ok (some command) => acknowledge ctx message (← execute ctx message.sender command)
    | .error e => acknowledge ctx message (.error (.usage e))

end Commands
end Moderation

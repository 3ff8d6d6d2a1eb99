import Moderation.Moderator.World
import Moderation.Policy.Decision
import Moderation.Policy.Publication
/-!
# Changes to policy lists

A **mutation** is one change to one list about one entity.  It is carried out in steps: its query
goes to the store, the records found decide whether it may go ahead and what is published, the
publication goes to the homeserver, and what came of that is settled, in the store if it succeeded
and in the audit log in any case.  The steps are separate so that those of several mutations can be
thought of as interleaved; `Mutation.run` takes them one after another.
-/

namespace Moderation

/-- A kind of change. -/
inductive Change where
  | ban (recommendation : Recommendation) (reason : String) (hashed : Bool)
  | reportBan (reason : String)
  | unban (reason : String)
  | remove (kind : RemovalKind)
  deriving DecidableEq, Repr

/-- The name of a change in the audit log. -/
def Change.action : Change → String
  | .ban .takedown _ _ => "takedown"
  | .ban _ _ _ => "ban"
  | .reportBan _ => "report_ban"
  | .unban _ => "unban"
  | .remove _ => "remove_policy"

/-- A change to a list about an entity. -/
structure Mutation where
  list : WatchedList
  kind : EntityKind
  entity : String
  change : Change
  deriving DecidableEq, Repr

/-- Why a mutation came to nothing. -/
inductive MutationFailure where
  | conflict (c : Conflict)
  | unpublished (e : HomeserverError)
  deriving DecidableEq, Repr

/-- A publication that was sent, with the event that carries it. -/
structure Published where
  publication : Publication
  eventId : String
  deriving DecidableEq

namespace Mutation

variable {σ : Type} (m : Mutation)

/-- What is asked of the store before a mutation, given the lists that are watched. -/
def query (watched : List String) : PolicyQuery :=
  match m.change with
  | .ban _ _ _ => { mode := .exact, lists := some watched, kind := m.kind, value := m.entity }
  | .reportBan _ => { mode := .pattern, lists := some watched, kind := .user, value := m.entity }
  | .unban _ => { mode := .pattern, lists := some watched, kind := m.kind, value := m.entity }
  | .remove _ =>
    { mode := .exact, lists := some [m.list.roomId], kind := m.kind, value := m.entity }

/-- What a mutation publishes, given the records that answer its query. -/
def decide (found : List PolicyRecord) : Except Conflict Publication :=
  match m.change with
  | .ban recommendation reason hashed =>
    (Decision.ban found m.list.roomId m.entity).map fun reuse =>
      Publication.rule m.entity recommendation reason hashed reuse
  | .reportBan reason =>
    (Decision.reportBan found m.list.roomId m.entity).map fun reuse =>
      Publication.rule m.entity .ban reason false reuse
  | .unban reason =>
    (Decision.unban found m.list.roomId m.entity).map fun reuse =>
      Publication.rule m.entity .unban reason false reuse
  | .remove kind =>
    (Decision.removal found m.entity kind).map fun key => Publication.removal m.entity (some key)

/-- What a mutation publishes, given a store. -/
def plan (watched : List String) (store : Store) : Except Conflict Publication :=
  m.decide (store.find (m.query watched))

/-- The record that a publication becomes once it is sent. -/
def record (p : Publication) (sender : String) (timestamp : Int64) : PolicyRecord where
  listRoom := m.list.roomId
  kind := m.kind
  stateKey := p.stateKey
  sender := sender
  timestamp := timestamp
  content := p.content

/-- The audit entry about a publication that was tried. -/
def entry (p : Publication) (actor : String) (answer : Answer String) (moment : Moment) :
    AuditEntry where
  id := moment.auditId
  action := m.change.action
  result := match answer with
    | .ok _ => "ok"
    | .error _ => "failed"
  actor := actor
  entity := p.subject m.entity
  listRoom := some m.list.roomId
  stateKey := some p.stateKey
  eventId := answer.toOption
  detail := match answer with
    | .ok _ => none
    | .error e => some e.message
  time := moment.auditTime

/-- The store after a publication was sent; an entity that it hides is remembered. -/
def recordIn (p : Publication) (sender : String) (timestamp : Int64) (store : Store) : Store :=
  let store := store.publish (m.record p sender timestamp)
  if p.entityHash.isSome then store.remember m.entity else store

variable (ctx : Context σ)

/-- Sends a publication. -/
def send (p : Publication) : Act σ (Answer String) :=
  Act.perform (.publish m.list.roomId m.kind p.stateKey p.content)
    (ctx.homeserver.publish m.list.roomId m.kind p.stateKey p.content)

/-- Settles what came of a publication. -/
def settle (p : Publication) (actor : String) (answer : Answer String) : Act σ Unit := do
  let moment ← Act.moment ctx
  if answer.toOption.isSome then
    modify fun w => { w with store := m.recordIn p ctx.settings.botUser moment.now w.store }
  Act.audit (m.entry p actor answer moment)

/-- Carries out a mutation, one step after another. -/
def run (actor : String) : Act σ (Except MutationFailure Published) := do
  match m.plan ctx.watched (← get).store with
  | .error c => return .error (.conflict c)
  | .ok p =>
    let answer ← m.send ctx p
    m.settle ctx p actor answer
    match answer with
    | .ok eventId => return .ok { publication := p, eventId }
    | .error e => return .error (.unpublished e)

end Mutation
end Moderation

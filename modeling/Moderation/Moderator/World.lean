import Moderation.Audit.Log
import Moderation.Homeserver.Basic
import Moderation.Membership
import Moderation.Store.Basic
import Moderation.Trust
/-!
# The moderator and its world

What the moderator is set up with does not change while it runs: its settings, the lists it watches,
its administrators, the homeserver it talks to, and where it gets identifiers and the time from.
What changes is its **world**: the store, the membership, the audit log and the state of the
homeserver.  The world also keeps what was asked of the homeserver, in order.
-/

namespace Moderation

/-- The settings of a moderator. -/
structure Settings where
  botUser : String
  requireEncryption : Bool
  leastTrust : Trust
  dryRun : Bool
  kickThreshold : Nat
  kickConcurrency : Nat
  deriving DecidableEq, Repr

/-- What a moment brings: the identifier and the time of an audit entry, the time of a rule in
milliseconds since 1970, and how long a query took. -/
structure Moment where
  auditId : String
  auditTime : String
  now : Int64
  elapsed : String

/-- What a moderator is set up with. -/
structure Context (σ : Type) where
  settings : Settings
  lists : List WatchedList
  admins : List String
  homeserver : Homeserver σ
  /-- The moments that pass, one for each time that one is looked at. -/
  moment : Nat → Moment

/-- Something that was asked of the homeserver. -/
inductive Effect where
  | publish (listRoom : String) (kind : EntityKind) (stateKey : String) (content : PolicyContent)
  | kick (room user reason : String)
  | join (room : String)
  | leave (room : String)
  | resolveAlias (name : String)
  | redact (room user reason : String)
  | eventSender (room event : String)
  | notice (text : String)
  | react (event : String)
  deriving DecidableEq

/-- What changes while a moderator runs. -/
structure World (σ : Type) where
  store : Store
  membership : Membership
  audit : AuditLog
  server : σ
  /-- What was asked of the homeserver, in order. -/
  effects : List Effect := []
  /-- How many moments have passed. -/
  ticks : Nat := 0

namespace Context

variable {σ : Type} (ctx : Context σ)

/-- The rooms of the lists that are watched. -/
def watched : List String := ctx.lists.map (·.roomId)

/-- The first list with a short code. -/
def listNamed (shortcode : String) : Option WatchedList := ctx.lists.find? (·.shortcode = shortcode)

/-- What a list is called: its name, or its room if it is not watched. -/
def listTitle (room : String) : String :=
  ((ctx.lists.find? (·.roomId = room)).map (·.name)).getD room

/-- Whether a user is an administrator. -/
def isAdmin (user : String) : Bool := user ∈ ctx.admins

end Context

/-- Something the moderator does. -/
abbrev Act (σ α : Type) := StateM (World σ) α

namespace Act

variable {σ α : Type} (ctx : Context σ)

/-- Makes a call to the homeserver and writes down that it was made. -/
def perform (effect : Effect) (call : StateM σ α) : Act σ α := fun w =>
  let (answer, server) := call w.server
  (answer, { w with server, effects := w.effects ++ [effect] })

/-- Shows a notice. -/
def notice (text : String) : Act σ Unit := perform (.notice text) (ctx.homeserver.notice text)

/-- Marks an event as done. -/
def react (event : String) : Act σ Unit := perform (.react event) (ctx.homeserver.react event)

/-- Looks at the moment. -/
def moment : Act σ Moment := fun w => (ctx.moment w.ticks, { w with ticks := w.ticks + 1 })

/-- Writes an entry into the audit log. -/
def audit (entry : AuditEntry) : Act σ Unit :=
  modify fun w => { w with audit := w.audit.append entry }

end Act
end Moderation

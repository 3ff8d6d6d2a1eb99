import Moderation.Config.Basic
import Moderation.Moderator.World
/-!
# Starting up

A moderator starts from its configuration and what it finds on **disk**: the tables of its database
and the files of its audit log.  A restart finds what the run before it has left there; what was
kept in memory is gone.
-/

namespace Moderation

/-- What the moderator finds on disk; a database that cannot be opened is `none`. -/
structure Disk where
  database : Option Database := some {}
  auditTable : List AuditEntry := []
  auditFile : FileState := .missing
  auditMirror : FileState := .missing

/-- Why a moderator cannot start. -/
inductive SetupError where
  | pathRequired
  | noDatabase
  | file (fault : FileFault)
  deriving DecidableEq, Repr

/-- The text of an error. -/
def SetupError.message : SetupError → String
  | .pathRequired => "store.sqlite_path is required for sqlite store"
  | .noDatabase => "unable to open database file"
  | .file fault => fault.message

/-- The settings in a configuration. -/
def Settings.ofConfig (c : Config) : Settings where
  botUser := c.homeserver.userId
  requireEncryption := c.commands.requireEncryption
  leastTrust := c.commands.leastTrust
  dryRun := c.enforcement.dryRun
  kickThreshold := c.enforcement.kickThreshold.toNat
  kickConcurrency := c.enforcement.kickConcurrency.toNat

/-- A moderator with a configuration. -/
def Context.ofConfig {σ : Type} (c : Config) (homeserver : Homeserver σ) (moment : Nat → Moment) :
    Context σ where
  settings := .ofConfig c
  lists := c.lists
  admins := c.admins
  homeserver := homeserver
  moment := moment

namespace Disk

/-- Opens the store. -/
def openStore (disk : Disk) (c : StoreConfig) : Except SetupError Store :=
  match c.kind with
  | .memory => .ok (.memory {})
  | .database =>
    if c.path.isNone then .error .pathRequired
    else match disk.database with
      | some d => .ok (.database d.reopen)
      | none => .error .noDatabase

/-- The files of the audit log: the mirror if its path is not empty, the table if there is a
database. -/
def auditFiles (disk : Disk) (c : Config) : AuditFiles where
  file := disk.auditFile
  mirror := (c.audit.mirrorPath.filter fun path => !path.isEmpty).map fun _ => disk.auditMirror
  table := c.store.path.map fun _ => disk.auditTable

end Disk

namespace World

variable {σ : Type}

/-- The world in which a moderator starts: the store is opened before the audit log. -/
def start (c : Config) (disk : Disk) (server : σ) : Except SetupError (World σ) := do
  let store ← disk.openStore c.store
  let audit ← (AuditLog.openFiles (disk.auditFiles c)).mapError .file
  return { store, membership := .ofRooms c.rooms, audit, server }

/-- What a world leaves on disk. -/
def disk (w : World σ) : Disk where
  database := match w.store with
    | .memory _ => some {}
    | .database d => some d
  auditTable := w.audit.table.getD []
  auditFile := .file w.audit.file
  auditMirror := (w.audit.mirror.map .file).getD .missing

/-- The world after a restart. -/
def restart (c : Config) (w : World σ) : Except SetupError (World σ) :=
  (start c w.disk w.server).map fun fresh => { fresh with effects := w.effects, ticks := w.ticks }

end World
end Moderation

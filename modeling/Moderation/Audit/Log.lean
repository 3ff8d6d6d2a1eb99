import Moderation.Audit.Chain
/-!
# The audit log

Entries are appended to a file, one record a line, each linked to the record before it; the same
lines go to a mirror file, and what can be searched for goes to a table, where a row takes the place
of an earlier one with its identifier.  The link goes on across restarts: opening a log takes up the
hash of the last line that has one.
-/

namespace Moderation

/-- Where an audit log is kept. -/
structure AuditFiles where
  file : FileState
  mirror : Option FileState := none
  table : Option (List AuditEntry) := none

/-- An audit log that is open: what its files hold, and the hash the next record is linked to. -/
structure AuditLog where
  file : ByteArray
  mirror : Option ByteArray := none
  table : Option (List AuditEntry) := none
  lastHash : Option String := none

namespace AuditLog

/-- The hash that a line of a log ends the chain with, if it has one. -/
def hashOn (line : String) : Option String := do
  let j ← Json.parse? line
  let hash ← j.get? "record_hash"
  hash.string?

/-- The hash of the last line that has one. -/
def lastHashOf (text : String) : Option String := (Text.lines text).reverse.findSome? hashOn

/-- Opens a log; files that are missing are made. -/
def openFiles (files : AuditFiles) : Except FileFault AuditLog := do
  let file ← files.file.openForAppend
  let mirror ← files.mirror.mapM FileState.openForAppend
  let lastHash := files.file.readText.toOption.bind lastHashOf
  return { file, mirror, table := files.table, lastHash }

/-- What is left of a log when it is closed. -/
def files (log : AuditLog) : AuditFiles where
  file := .file log.file
  mirror := log.mirror.map .file
  table := log.table

/-- A table with the row of an entry, which takes the place of an earlier row with its
identifier. -/
def insertRow (rows : List AuditEntry) (e : AuditEntry) : List AuditEntry :=
  rows.filter (·.id ≠ e.id) ++ [e]

/-- The line that an entry is written as. -/
def lineFor (log : AuditLog) (e : AuditEntry) : String :=
  (e.link log.lastHash).toJson.render ++ "\n"

/-- Appends an entry. -/
def append (log : AuditLog) (e : AuditEntry) : AuditLog :=
  let line := (log.lineFor e).toUTF8
  { file := log.file ++ line
    mirror := log.mirror.map (· ++ line)
    table := log.table.map (insertRow · e)
    lastHash := some (e.link log.lastHash).hash }

/-- The columns of a row that can be looked at: action, result, actor, entity and list. -/
def columns (e : AuditEntry) : List (Option String) :=
  [some e.action, some e.result, some e.actor, some e.entity, e.listRoom]

end AuditLog
end Moderation

import Moderation.Store.Query
import Moderation.Text.Hex
import Moderation.Wire.Policy
/-!
# A store in a database

The rules are rows of a table, their contents kept as JSON text that is read at every query; the
known users are rows of another, under the hexadecimal digits of their digest.  Rows may have been
written by others: when the content of one row of a kind cannot be read, queries for that kind find
nothing.  A table that is gone takes no writes and answers nothing until the database is opened
again.
-/

namespace Moderation

/-- A row of the table of rules. -/
structure PolicyRow where
  listRoom : String
  kind : String
  stateKey : String
  sender : String
  timestamp : Int64
  content : String
  deriving DecidableEq

namespace PolicyRow

/-- The row of a record. -/
def ofRecord (r : PolicyRecord) : PolicyRow where
  listRoom := r.listRoom
  kind := r.kind.name
  stateKey := r.stateKey
  sender := r.sender
  timestamp := r.timestamp
  content := r.content.toJson.render

/-- The primary key of a row. -/
def key (p : PolicyRow) : String × String × String := (p.listRoom, p.kind, p.stateKey)

/-- The record in a row of a kind, if its content can be read. -/
def record? (kind : EntityKind) (p : PolicyRow) : Option PolicyRecord :=
  match PolicyContent.decoder.ofText p.content with
  | .ok content =>
    some
      { listRoom := p.listRoom, kind, stateKey := p.stateKey, sender := p.sender,
        timestamp := p.timestamp, content }
  | .error _ => none

/-- The rows with one that takes the place of the row under its key. -/
def upsert (p : PolicyRow) : List PolicyRow → List PolicyRow
  | [] => [p]
  | q :: rest => if q.key = p.key then p :: rest else q :: upsert p rest

/-- The rows with one at their end and none but it under its key. -/
def replace (p : PolicyRow) (rows : List PolicyRow) : List PolicyRow :=
  rows.filter (·.key ≠ p.key) ++ [p]

end PolicyRow

/-- The tables of a database; one that is gone is `none`. -/
structure Database where
  policies : Option (List PolicyRow) := some []
  hashes : Option (List (String × String)) := some []

namespace Database

/-- The records of a kind, or nothing when one of them cannot be read. -/
def recordsOf (d : Database) (kind : EntityKind) : List PolicyRecord :=
  (((d.policies.getD []).filter (·.kind = kind.name)).mapM (PolicyRow.record? kind)).getD []

/-- The records that answer a query. -/
def find (d : Database) (q : PolicyQuery) : List PolicyRecord :=
  (d.recordsOf q.kind).filter q.accepts

/-- Publishes a record. -/
def publish (d : Database) (r : PolicyRecord) : Database :=
  let row := PolicyRow.ofRecord r
  { d with
    policies := d.policies.map fun rows =>
      if r.content.isTombstone then rows.filter (·.key ≠ row.key) else PolicyRow.upsert row rows }

/-- The key of a user in the table of digests. -/
def hashKey (digest : Digest) : String := Text.toHex digest.toList

/-- Remembers a user under its digest. -/
def remember (d : Database) (user : String) : Database :=
  let key := hashKey (sha256Text user)
  { d with hashes := d.hashes.map fun rows => rows.filter (·.1 ≠ key) ++ [(key, user)] }

/-- The user behind a digest. -/
def reverse (d : Database) (digest : Digest) : Option String :=
  ((d.hashes.getD []).find? (·.1 = hashKey digest)).map (·.2)

/-- Writes a row past the bot. -/
def writeRow (d : Database) (p : PolicyRow) : Database :=
  { d with policies := d.policies.map p.replace }

/-- The database when it is opened again: tables that are gone are made anew. -/
def reopen (d : Database) : Database where
  policies := some (d.policies.getD [])
  hashes := some (d.hashes.getD [])

end Database
end Moderation

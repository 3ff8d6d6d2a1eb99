import Moderation.Digest.Sha256
import Moderation.Json.Canonical
import Moderation.Json.Decoder
import Moderation.Text.Hex
import Moderation.Wire.Policy
/-!
# Audit records

An **entry** says what was done, with what result, by whom and to whom.  A **record** is an entry as
it stands in the log: with the hash of the record before it and a hash of its own, which is taken
over the canonical text of the record with its own hash left empty.
-/

namespace Moderation
open Json

/-- What was done, with what result, by whom and to whom. -/
structure AuditEntry where
  id : String
  action : String
  result : String
  actor : String
  entity : String
  listRoom : Option String := none
  stateKey : Option String := none
  eventId : Option String := none
  detail : Option String := none
  time : String
  deriving DecidableEq, Repr

/-- An entry in a log, linked to the record before it. -/
structure AuditRecord where
  entry : AuditEntry
  previous : Option String
  hash : String
  deriving DecidableEq, Repr

namespace AuditRecord

/-- The fields of a record. -/
def fields : Fields AuditRecord :=
  (fun id action result actor entity listRoom stateKey eventId detail time previous hash =>
      { entry := { id, action, result, actor, entity, listRoom, stateKey, eventId, detail, time },
        previous, hash })
    <$> Fields.required "audit_id" Decoder.string
    <*> Fields.required "action" Decoder.string
    <*> Fields.required "result" Decoder.string
    <*> Fields.required "actor" Decoder.string
    <*> Fields.required "entity" Decoder.string
    <*> Fields.optional "list_room" Decoder.string
    <*> Fields.optional "state_key" Decoder.string
    <*> Fields.optional "event_id" Decoder.string
    <*> Fields.optional "detail" Decoder.string
    <*> Fields.required "ts" Decoder.string
    <*> Fields.optional "prev_hash" Decoder.string
    <*> Fields.required "record_hash" Decoder.string

/-- Reads a record. -/
def decoder : Decoder AuditRecord := Decoder.record false fields

/-- Writes a record; what is absent is left out. -/
def toJson (r : AuditRecord) : Json :=
  let e := r.entry
  .object
    ([("audit_id", .string e.id), ("action", .string e.action), ("result", .string e.result),
        ("actor", .string e.actor), ("entity", .string e.entity)] ++
      optionalMember "list_room" (e.listRoom.map .string) ++
      optionalMember "state_key" (e.stateKey.map .string) ++
      optionalMember "event_id" (e.eventId.map .string) ++
      optionalMember "detail" (e.detail.map .string) ++
      [("ts", .string e.time)] ++
      optionalMember "prev_hash" (r.previous.map .string) ++
      [("record_hash", .string r.hash)])

/-- The text that the hash of a record is taken over. -/
def sealedText (r : AuditRecord) : String := { r with hash := "" }.toJson.canonical

/-- The hash that a record should have. -/
def expectedHash (r : AuditRecord) : String := Text.toHex (sha256Text r.sealedText).toList

end AuditRecord

/-- The record of an entry after a record with a hash. -/
def AuditEntry.link (e : AuditEntry) (previous : Option String) : AuditRecord :=
  let r : AuditRecord := { entry := e, previous, hash := "" }
  { r with hash := r.expectedHash }

end Moderation

import Moderation.Inbound
import Moderation.Json.Decoder
/-!
# Inbound messages on the wire

How command messages, reports and membership updates are written as JSON and read back.  Each of
them is strict: a member that is no field is refused.
-/

namespace Moderation
open Json

/-- A state of trust by its name. -/
def Trust.decoder : Decoder Trust := Decoder.name Draft.isNull Trust.ofName?

/-- A state of trust by its name. -/
def Trust.toJson (t : Trust) : Json := .string t.name

/-- A text, or null where there is none. -/
def nullableText (s : Option String) : Json := (s.map Json.string).getD .null

/-- Some texts as an array. -/
def textArray (texts : List String) : Json := .array (texts.map .string)

namespace CommandMessage

/-- The fields of a command message. -/
def fields : Fields CommandMessage :=
  (fun eventId sender body encrypted trust => { eventId, sender, body, encrypted, trust })
    <$> Fields.required "event_id" Decoder.string
    <*> Fields.required "sender" Decoder.string
    <*> Fields.required "body" Decoder.string
    <*> Fields.defaulted "was_encrypted" Decoder.bool false
    <*> Fields.defaulted "trust_state" Trust.decoder .unset

/-- Reads a command message. -/
def decoder : Decoder CommandMessage := Decoder.record true fields

/-- Writes a command message. -/
def toJson (c : CommandMessage) : Json :=
  .object [("event_id", .string c.eventId), ("sender", .string c.sender), ("body", .string c.body),
    ("was_encrypted", .bool c.encrypted), ("trust_state", c.trust.toJson)]

end CommandMessage

namespace Report

/-- The fields of a report. -/
def fields : Fields Report :=
  (fun reporter targetUser roomId eventId reason =>
    { reporter, targetUser, roomId, eventId, reason })
    <$> Fields.required "reporter" Decoder.string
    <*> Fields.defaulted "target_user" Decoder.string.option none
    <*> Fields.defaulted "room_id" Decoder.string.option none
    <*> Fields.defaulted "event_id" Decoder.string.option none
    <*> Fields.required "reason" Decoder.string

/-- Reads a report. -/
def decoder : Decoder Report := Decoder.record true fields

/-- Writes a report. -/
def toJson (r : Report) : Json :=
  .object [("reporter", .string r.reporter), ("target_user", nullableText r.targetUser),
    ("room_id", nullableText r.roomId), ("event_id", nullableText r.eventId),
    ("reason", .string r.reason)]

end Report

namespace MembershipUpdate

/-- The fields of a membership update. -/
def fields : Fields MembershipUpdate :=
  (fun roomId name joined left => { roomId, name, joined, left })
    <$> Fields.required "room_id" Decoder.string
    <*> Fields.defaulted "name" Decoder.string.option none
    <*> Fields.defaulted "joined" Decoder.string.list []
    <*> Fields.defaulted "left" Decoder.string.list []

/-- Reads a membership update. -/
def decoder : Decoder MembershipUpdate := Decoder.record true fields

/-- Writes a membership update. -/
def toJson (u : MembershipUpdate) : Json :=
  .object [("room_id", .string u.roomId), ("name", nullableText u.name),
    ("joined", textArray u.joined), ("left", textArray u.left)]

end MembershipUpdate

end Moderation

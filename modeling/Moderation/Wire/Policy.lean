import Moderation.Json.Decoder
import Moderation.Policy.Record
/-!
# Policy records on the wire

How kinds, recommendations, contents and records are written as JSON and read back.  A content
leaves out what is empty or absent, so a tombstone is an empty object; a record writes every field.
-/

namespace Moderation
open Json

/-- A kind of entity by its name; `isNothing` says what may stand under a name that is written as a
member. -/
def EntityKind.decoder (isNothing : Draft → Bool) : Decoder EntityKind :=
  Decoder.name isNothing EntityKind.ofName?

/-- A kind of entity by its name. -/
def EntityKind.toJson (k : EntityKind) : Json := .string k.name

/-- A recommendation by its tag. -/
def Recommendation.decoder (isNothing : Draft → Bool) : Decoder Recommendation :=
  Decoder.name isNothing Recommendation.ofTag?

/-- A recommendation by its tag. -/
def Recommendation.toJson (r : Recommendation) : Json := .string r.tag

/-- A text as a member, left out when it is empty. -/
def textMember (name text : String) : List (String × Json) :=
  if text.isEmpty then [] else [(name, .string text)]

/-- A value as a member, left out when it is absent. -/
def optionalMember (name : String) (value : Option Json) : List (String × Json) :=
  (value.map (name, ·)).toList

namespace PolicyHashes

/-- The fields of the digests. -/
def fields : Fields PolicyHashes :=
  (fun sha256 => { sha256 }) <$> Fields.defaulted "sha256" (Decoder.string.option) none

/-- Reads the digests. -/
def decoder : Decoder PolicyHashes := Decoder.record false fields

/-- Writes the digests. -/
def toJson (h : PolicyHashes) : Json := .object (optionalMember "sha256" (h.sha256.map .string))

end PolicyHashes

namespace PolicyContent

/-- The fields of a content. -/
def fields : Fields PolicyContent :=
  (fun entity reason recommendation hashes => { entity, reason, recommendation, hashes })
    <$> Fields.defaulted "entity" Decoder.string ""
    <*> Fields.defaulted "reason" Decoder.string ""
    <*> Fields.defaulted "recommendation" (Recommendation.decoder Draft.isNull).option none
    <*> Fields.defaulted "org.matrix.msc4205.hashes" PolicyHashes.decoder.option none

/-- Reads a content. -/
def decoder : Decoder PolicyContent := Decoder.record false fields

/-- Writes a content. -/
def toJson (c : PolicyContent) : Json :=
  .object
    (textMember "entity" c.entity ++ textMember "reason" c.reason ++
      optionalMember "recommendation" (c.recommendation.map Recommendation.toJson) ++
      optionalMember "org.matrix.msc4205.hashes" (c.hashes.map PolicyHashes.toJson))

end PolicyContent

namespace PolicyRecord

/-- The fields of a record. -/
def fields : Fields PolicyRecord :=
  (fun listRoom kind stateKey sender timestamp content =>
    { listRoom, kind, stateKey, sender, timestamp, content })
    <$> Fields.required "list_room" Decoder.string
    <*> Fields.required "entity_kind" (EntityKind.decoder Draft.isNull)
    <*> Fields.required "state_key" Decoder.string
    <*> Fields.required "sender" Decoder.string
    <*> Fields.defaulted "timestamp_ms" Decoder.int64 0
    <*> Fields.required "content" PolicyContent.decoder

/-- Reads a record. -/
def decoder : Decoder PolicyRecord := Decoder.record false fields

/-- Writes a record. -/
def toJson (r : PolicyRecord) : Json :=
  .object [("list_room", .string r.listRoom), ("entity_kind", r.kind.toJson),
    ("state_key", .string r.stateKey), ("sender", .string r.sender),
    ("timestamp_ms", .int r.timestamp.toInt), ("content", r.content.toJson)]

end PolicyRecord

namespace WatchedList

/-- The fields of a watched list. -/
def fields : Fields WatchedList :=
  (fun roomId shortcode name => { roomId, shortcode, name })
    <$> Fields.required "room_id" Decoder.string
    <*> Fields.required "shortcode" Decoder.string
    <*> Fields.required "name" Decoder.string

/-- Reads a watched list. -/
def decoder : Decoder WatchedList := Decoder.record false fields

/-- Writes a watched list. -/
def toJson (l : WatchedList) : Json :=
  .object [("room_id", .string l.roomId), ("shortcode", .string l.shortcode),
    ("name", .string l.name)]

end WatchedList

namespace ProtectedRoom

/-- The fields of a protected room. -/
def fields : Fields ProtectedRoom :=
  (fun roomId name => { roomId, name })
    <$> Fields.required "room_id" Decoder.string
    <*> Fields.defaulted "name" Decoder.string ""

/-- Reads a protected room. -/
def decoder : Decoder ProtectedRoom := Decoder.record false fields

/-- Writes a protected room. -/
def toJson (r : ProtectedRoom) : Json :=
  .object [("room_id", .string r.roomId), ("name", .string r.name)]

end ProtectedRoom

end Moderation

import Moderation.Report.Outcome
import Moderation.Wire.Policy
/-!
# Answers on the wire

How the outcome of a report and the body of an error are written as JSON and read back.  The member
`outcome` says which outcome it is; the members of an action stand beside it.  Since the tag may
come last, an outcome is read as a complete value before its action is.
-/

namespace Moderation
open Json

namespace PolicyAction

/-- The fields of an action; `isNothing` says what may stand under a name that is written as a
member. -/
def fields (isNothing : Draft → Bool) : Fields PolicyAction :=
  (fun listRoom listShortcode kind entity recommendation reason stateKey eventId =>
      { listRoom, listShortcode, kind, entity, recommendation, reason, stateKey, eventId })
    <$> Fields.required "list_room" Decoder.string
    <*> Fields.required "list_shortcode" Decoder.string
    <*> Fields.required "entity_kind" (EntityKind.decoder isNothing)
    <*> Fields.required "entity" Decoder.string
    <*> Fields.required "recommendation" (Recommendation.decoder isNothing)
    <*> Fields.required "reason" Decoder.string
    <*> Fields.required "state_key" Decoder.string
    <*> Fields.required "event_id" Decoder.string

/-- Reads an action. -/
def decoder : Decoder PolicyAction := Decoder.record false (fields Draft.isNull)

/-- The members of an action. -/
def members (a : PolicyAction) : List (String × Json) :=
  [("list_room", .string a.listRoom), ("list_shortcode", .string a.listShortcode),
    ("entity_kind", a.kind.toJson), ("entity", .string a.entity),
    ("recommendation", a.recommendation.toJson), ("reason", .string a.reason),
    ("state_key", .string a.stateKey), ("event_id", .string a.eventId)]

/-- Writes an action. -/
def toJson (a : PolicyAction) : Json := .object a.members

end PolicyAction

namespace ReportOutcome

/-- The tags of outcomes. -/
inductive Tag where
  | notice
  | ignored
  | policy
  deriving DecidableEq, Repr

/-- The tag with a name. -/
def Tag.ofName? : String → Option Tag
  | "notice" => some .notice
  | "ignored" => some .ignored
  | "policy" => some .policy
  | _ => none

/-- Reads a tag. -/
def Tag.decoder : Decoder Tag := fun d => do
  let s ← Decoder.string d
  match Tag.ofName? s with
  | some tag => .ok tag
  | none => .error .mistyped

/-- Splits the members of an object into the tag and the others, in the order of the text. -/
def untagMembers (tag : Option Tag) :
    List (Option String × Draft) → Except Refusal (Option Tag × List (String × Json))
  | [] => .ok (tag, [])
  | (none, _) :: _ => .error .malformed
  | (some name, v) :: rest =>
    if name = "outcome" then
      if tag.isSome then .error .mistyped
      else do
        let tag ← Tag.decoder v
        untagMembers (some tag) rest
    else do
      let j ← v.value (Draft.depthLimit - 1)
      let (tag, members) ← untagMembers tag rest
      return (tag, (name, j) :: members)

/-- The outcome with a tag, from the rest of its members or items. -/
def ofTag (tag : Tag) (rest : Json) : Except Refusal ReportOutcome :=
  let bare (outcome : ReportOutcome) : Except Refusal ReportOutcome :=
    match rest with
    | .array (_ :: _) => .error .mistyped
    | _ => .ok outcome
  match tag with
  | .notice => bare .notice
  | .ignored => bare .ignored
  | .policy =>
    (Decoder.buffered (Decoder.record false (PolicyAction.fields Draft.isEmpty)) rest).map .policy

/-- Reads an outcome: an object with a tag among its members, or an array with the tag first. -/
def decoder : Decoder ReportOutcome
  | .object members closed => do
    let (tag, rest) ← untagMembers none members
    if !closed then .error .malformed
    else match tag with
      | some tag => ofTag tag (.object rest)
      | none => .error .mistyped
  | .array [] closed => .error (if closed then .mistyped else .malformed)
  | .array (first :: items) closed => do
    let tag ← Tag.decoder first
    let rest ← Draft.itemValues (Draft.depthLimit - 1) items
    if closed then ofTag tag (.array rest) else .error .malformed
  | v => .error v.mismatch

/-- Writes an outcome. -/
def toJson : ReportOutcome → Json
  | .notice => .object [("outcome", .string "notice")]
  | .ignored => .object [("outcome", .string "ignored")]
  | .policy action => .object (("outcome", .string "policy") :: action.members)

end ReportOutcome

/-- The body of an error answer. -/
structure ErrorBody where
  errcode : String
  error : String
  deriving DecidableEq, Repr

namespace ErrorBody

/-- The fields of an error body. -/
def fields : Fields ErrorBody :=
  (fun errcode error => { errcode, error })
    <$> Fields.required "errcode" Decoder.string
    <*> Fields.required "error" Decoder.string

/-- Reads an error body. -/
def decoder : Decoder ErrorBody := Decoder.record false fields

/-- Writes an error body. -/
def toJson (e : ErrorBody) : Json :=
  .object [("errcode", .string e.errcode), ("error", .string e.error)]

end ErrorBody

end Moderation

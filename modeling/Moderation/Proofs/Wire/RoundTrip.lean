import Moderation.Proofs.Wire.Content
import Moderation.Wire.Inbound
import Moderation.Wire.Outcome
/-!
# What is written reads back

Every type that goes over the wire or into the database is written so that its text reads back as
the value, and a text that was read and written once does not change when that is done again
(`WireType.round_trip`).

Most of the types are records, and a record is read as its fields are: each `reads` below goes
through the fields in declared order.  The outcome of a report is not a record.  Its tag stands
among the members of its action, and what is left without the tag is taken as a value before an
action is read off it (`ReportOutcome.untagMembers_memberDrafts`).
-/

namespace Moderation
open Json Json.Decoder

/-! ## Names and texts -/

theorem EntityKind.reads (isNothing : Draft → Bool) (k : EntityKind) :
    (EntityKind.decoder isNothing).Reads k.toJson k :=
  reads_name (EntityKind.ofName?_name k)

theorem Trust.reads (t : Trust) : Trust.decoder.Reads t.toJson t :=
  reads_name (Trust.ofName?_name t)

theorem reads_nullableText (s : Option String) :
    Decoder.string.option.Reads (nullableText s) s := by
  cases s with
  | none => exact reads_null
  | some s => exact (reads_string s).some Json.noConfusion

theorem reads_textArray (texts : List String) :
    Decoder.string.list.Reads (textArray texts) texts :=
  reads_list reads_string texts

/-! ## Records -/

theorem PolicyRecord.reads (r : PolicyRecord) : PolicyRecord.decoder.Reads r.toJson r := by
  have hfields := Fields.Reads.map PolicyRecord.mk
      (.required "list_room" (reads_string r.listRoom))
    |>.seq (.required "entity_kind" (EntityKind.reads Draft.isNull r.kind))
    |>.seq (.required "state_key" (reads_string r.stateKey))
    |>.seq (.required "sender" (reads_string r.sender))
    |>.seq (.defaulted "timestamp_ms" 0 (reads_int64 r.timestamp))
    |>.seq (.required "content" r.content.reads)
  exact hfields.record false (by decide)

theorem WatchedList.reads (l : WatchedList) : WatchedList.decoder.Reads l.toJson l := by
  have hfields := Fields.Reads.map WatchedList.mk (.required "room_id" (reads_string l.roomId))
    |>.seq (.required "shortcode" (reads_string l.shortcode))
    |>.seq (.required "name" (reads_string l.name))
  exact hfields.record false (by decide)

theorem ProtectedRoom.reads (r : ProtectedRoom) : ProtectedRoom.decoder.Reads r.toJson r := by
  have hfields := Fields.Reads.map ProtectedRoom.mk (.required "room_id" (reads_string r.roomId))
    |>.seq (.defaulted "name" "" (reads_string r.name))
  exact hfields.record false (by decide)

theorem CommandMessage.reads (c : CommandMessage) : CommandMessage.decoder.Reads c.toJson c := by
  have hfields := Fields.Reads.map CommandMessage.mk
      (.required "event_id" (reads_string c.eventId))
    |>.seq (.required "sender" (reads_string c.sender))
    |>.seq (.required "body" (reads_string c.body))
    |>.seq (.defaulted "was_encrypted" false (reads_bool c.encrypted))
    |>.seq (.defaulted "trust_state" .unset c.trust.reads)
  exact hfields.record true (by decide)

theorem Report.reads (r : Report) : Report.decoder.Reads r.toJson r := by
  have hfields := Fields.Reads.map Report.mk (.required "reporter" (reads_string r.reporter))
    |>.seq (.defaulted "target_user" none (reads_nullableText r.targetUser))
    |>.seq (.defaulted "room_id" none (reads_nullableText r.roomId))
    |>.seq (.defaulted "event_id" none (reads_nullableText r.eventId))
    |>.seq (.required "reason" (reads_string r.reason))
  exact hfields.record true (by decide)

theorem MembershipUpdate.reads (u : MembershipUpdate) :
    MembershipUpdate.decoder.Reads u.toJson u := by
  have hfields := Fields.Reads.map MembershipUpdate.mk
      (.required "room_id" (reads_string u.roomId))
    |>.seq (.defaulted "name" none (reads_nullableText u.name))
    |>.seq (.defaulted "joined" [] (reads_textArray u.joined))
    |>.seq (.defaulted "left" [] (reads_textArray u.left))
  exact hfields.record true (by decide)

theorem ErrorBody.reads (e : ErrorBody) : ErrorBody.decoder.Reads e.toJson e := by
  have hfields := Fields.Reads.map ErrorBody.mk (.required "errcode" (reads_string e.errcode))
    |>.seq (.required "error" (reads_string e.error))
  exact hfields.record false (by decide)

theorem PolicyAction.fields_reads (isNothing : Draft → Bool) (a : PolicyAction) :
    (PolicyAction.fields isNothing).Reads a.members a :=
  Fields.Reads.map PolicyAction.mk (.required "list_room" (reads_string a.listRoom))
    |>.seq (.required "list_shortcode" (reads_string a.listShortcode))
    |>.seq (.required "entity_kind" (EntityKind.reads isNothing a.kind))
    |>.seq (.required "entity" (reads_string a.entity))
    |>.seq (.required "recommendation" (Recommendation.reads isNothing a.recommendation))
    |>.seq (.required "reason" (reads_string a.reason))
    |>.seq (.required "state_key" (reads_string a.stateKey))
    |>.seq (.required "event_id" (reads_string a.eventId))

/-- An action is read whatever may stand under a name that is written as a member. -/
theorem PolicyAction.reads (isNothing : Draft → Bool) (a : PolicyAction) :
    (Decoder.record false (PolicyAction.fields isNothing)).Reads a.toJson a := by
  have hnames : ((PolicyAction.fields Draft.isNull).slots.map (·.name)).Nodup := by decide
  exact (a.fields_reads isNothing).record false hnames

/-! ## Outcomes -/

namespace ReportOutcome

/-- Members that are no tag stay as they are where the tag is looked for. -/
theorem untagMembers_memberDrafts {tag : Option Tag} {members : List (String × Json)}
    (hname : "outcome" ∉ members.map (·.1))
    (hdepth : membersDepth members ≤ Draft.depthLimit - 1) :
    untagMembers tag (memberDrafts members) = .ok (tag, members) := by
  induction members with
  | nil => rfl
  | cons m rest ih =>
    obtain ⟨name, j⟩ := m
    rw [List.map_cons, List.mem_cons, not_or] at hname
    rw [membersDepth, Nat.max_le] at hdepth
    have hrest := ih hname.2 hdepth.2
    simp only [memberDrafts, untagMembers, if_neg (Ne.symm hname.1), value_toDraft j hdepth.1,
      hrest]
    rfl

theorem decoder_policy (a : PolicyAction) :
    decoder (toJson (.policy a)).toDraft = .ok (.policy a) := by
  have hname : "outcome" ∉ a.members.map (·.1) := by
    have hfields : "outcome" ∉ (PolicyAction.fields Draft.isNull).slots.map (·.name) := by decide
    exact fun h => hfields ((a.fields_reads Draft.isNull).named.subset h)
  have hrest : untagMembers (some Tag.policy) (memberDrafts a.members) =
      .ok (some Tag.policy, a.members) := untagMembers_memberDrafts hname (Nat.zero_le _)
  have huntag : untagMembers none (memberDrafts (("outcome", .string "policy") :: a.members)) =
      .ok (some Tag.policy, a.members) := hrest
  have hpolicy : ofTag .policy (.object a.members) = .ok (.policy a) := by
    have hdecoded := (PolicyAction.reads Draft.isEmpty a).decoded
    simp only [PolicyAction.toJson] at hdecoded
    simp only [ofTag, buffered, hdecoded]
    rfl
  rw [toJson, toDraft, decoder, huntag]
  exact hpolicy

theorem reads (o : ReportOutcome) : ReportOutcome.decoder.Reads o.toJson o := by
  cases o with
  | notice => exact ⟨rfl, rfl⟩
  | ignored => exact ⟨rfl, rfl⟩
  | policy a => exact ⟨(PolicyAction.reads Draft.isNull a).isExact, decoder_policy a⟩

end ReportOutcome

/-! ## Every type -/

/-- The types that are written as JSON. -/
inductive WireType where
  | policyRecord
  | policyContent
  | watchedList
  | protectedRoom
  | commandMessage
  | report
  | membershipUpdate
  | reportOutcome
  | policyAction
  | errorBody
  | entityKind
  | recommendation
  | trust
  deriving DecidableEq, Repr

namespace WireType

/-- The values of a type. -/
abbrev Value : WireType → Type
  | .policyRecord => PolicyRecord
  | .policyContent => PolicyContent
  | .watchedList => WatchedList
  | .protectedRoom => ProtectedRoom
  | .commandMessage => CommandMessage
  | .report => Report
  | .membershipUpdate => MembershipUpdate
  | .reportOutcome => ReportOutcome
  | .policyAction => PolicyAction
  | .errorBody => ErrorBody
  | .entityKind => EntityKind
  | .recommendation => Recommendation
  | .trust => Trust

/-- How a value of a type is written. -/
def toJson : (t : WireType) → t.Value → Json
  | .policyRecord => PolicyRecord.toJson
  | .policyContent => PolicyContent.toJson
  | .watchedList => WatchedList.toJson
  | .protectedRoom => ProtectedRoom.toJson
  | .commandMessage => CommandMessage.toJson
  | .report => Report.toJson
  | .membershipUpdate => MembershipUpdate.toJson
  | .reportOutcome => ReportOutcome.toJson
  | .policyAction => PolicyAction.toJson
  | .errorBody => ErrorBody.toJson
  | .entityKind => EntityKind.toJson
  | .recommendation => Recommendation.toJson
  | .trust => Trust.toJson

/-- How a value of a type is read. -/
def decoder : (t : WireType) → Decoder t.Value
  | .policyRecord => PolicyRecord.decoder
  | .policyContent => PolicyContent.decoder
  | .watchedList => WatchedList.decoder
  | .protectedRoom => ProtectedRoom.decoder
  | .commandMessage => CommandMessage.decoder
  | .report => Report.decoder
  | .membershipUpdate => MembershipUpdate.decoder
  | .reportOutcome => ReportOutcome.decoder
  | .policyAction => PolicyAction.decoder
  | .errorBody => ErrorBody.decoder
  | .entityKind => EntityKind.decoder Draft.isNull
  | .recommendation => Recommendation.decoder Draft.isNull
  | .trust => Trust.decoder

theorem reads (t : WireType) (v : t.Value) : t.decoder.Reads (t.toJson v) v := by
  cases t with
  | policyRecord => exact PolicyRecord.reads v
  | policyContent => exact PolicyContent.reads v
  | watchedList => exact WatchedList.reads v
  | protectedRoom => exact ProtectedRoom.reads v
  | commandMessage => exact CommandMessage.reads v
  | report => exact Report.reads v
  | membershipUpdate => exact MembershipUpdate.reads v
  | reportOutcome => exact ReportOutcome.reads v
  | policyAction => exact PolicyAction.reads Draft.isNull v
  | errorBody => exact ErrorBody.reads v
  | entityKind => exact EntityKind.reads Draft.isNull v
  | recommendation => exact Recommendation.reads Draft.isNull v
  | trust => exact Trust.reads v

/-- The text of a value. -/
def encode (t : WireType) (v : t.Value) : String := (t.toJson v).render

/-- The value of a text, or why it has none. -/
def decode (t : WireType) (s : String) : Except Refusal t.Value := t.decoder.ofText s

/-- A text, read and written again. -/
def recode (t : WireType) (s : String) : Except Refusal String := (t.decode s).map t.encode

theorem decode_encode (t : WireType) (v : t.Value) : t.decode (t.encode v) = .ok v :=
  (t.reads v).ofText_render

/-- **What is written reads back.**  The text of every value of every type is read as that value,
and so a text that is read and written again is the same when it is read and written once more. -/
theorem round_trip (t : WireType) :
    (∀ v : t.Value, t.decode (t.encode v) = .ok v) ∧
      ∀ s : String, t.recode s >>= t.recode = t.recode s := by
  refine ⟨t.decode_encode, fun s => ?_⟩
  cases hs : t.decode s with
  | error e => simp [recode, hs, Except.map, bind, Except.bind]
  | ok v =>
    have hagain : t.recode (t.encode v) = .ok (t.encode v) := by
      rw [recode, decode_encode]
      rfl
    have hrecode : t.recode s = .ok (t.encode v) := by
      rw [recode, hs]
      rfl
    rw [hrecode]
    exact hagain

example : encode .policyContent PolicyContent.tombstone = "\x7b\x7d" := rfl

end WireType
end Moderation

import Moderation.Inbound
import Moderation.Moderator.Mutation
import Moderation.Report.Command
import Moderation.Report.Outcome
/-!
# Handling reports

A report is shown to the moderators.  One that an administrator makes with a command for a reason is
acted upon instead: a `/ban` sends a rule about the user to a list, unless the lists already say
something about that user.  The sender of a reported event counts as its target, whomever the report
names.
-/

namespace Moderation

/-- Why a report failed. -/
inductive ReportError where
  | invalidParam (text : String)
  | notFound (text : String)
  | conflict (c : Conflict)
  | eventFetch (e : HomeserverError)
  | unpublished (e : HomeserverError)
  deriving DecidableEq, Repr

namespace ReportError

/-- The text of an error. -/
def message : ReportError → String
  | .invalidParam text => text
  | .notFound text => text
  | .conflict c => c.message
  | .eventFetch e => s!"failed to fetch event: {e.message}"
  | .unpublished e => s!"failed to send policy: {e.message}"

/-- The code of an error. -/
def errcode : ReportError → String
  | .invalidParam _ => "M_INVALID_PARAM"
  | .notFound _ => "M_NOT_FOUND"
  | .conflict (.unbanRecommended _ _) => "NET.BULWARK.UNBAN_RECOMMENDED"
  | .conflict (.alreadyBanned _ _) => "NET.BULWARK.ALREADY_BANNED"
  | .conflict _ => "NET.BULWARK.CONFLICT"
  | .eventFetch _ => "M_UNKNOWN"
  | .unpublished _ => "M_UNKNOWN"

/-- The status that an error is answered with. -/
def status : ReportError → Nat
  | .invalidParam _ => 400
  | .notFound _ => 404
  | .conflict _ => 409
  | .eventFetch _ => 502
  | .unpublished _ => 502

/-- What a mutation's failure means to a report. -/
def ofFailure : MutationFailure → ReportError
  | .conflict c => .conflict c
  | .unpublished e => .unpublished e

end ReportError

namespace Reports

variable {σ : Type} (ctx : Context σ)

/-- A user, a room or a list by its identifier, as a link. -/
def linked (id : String) : String := s!"[{id}]({Entity.link id})"

/-- A list by its name and its identifier. -/
def linkedList (list : WatchedList) : String := s!"{list.name} ({linked list.roomId})"

/-- What the moderators are shown of a report whose event, if it has one, was sent by a known
user. -/
def noticeText (report : Report) (sender : Option String) : String :=
  let reporter := linked report.reporter
  match report.roomId, report.eventId, sender with
  | some room, some event, some sender =>
    s!"{reporter} reported [an event]({Entity.eventLink room event}) from {linked sender} " ++
      s!"for {report.reason}"
  | some room, _, _ => s!"{reporter} reported [a room]({Entity.link room}) for {report.reason}"
  | none, _, _ =>
    match report.targetUser with
    | some user => s!"{reporter} reported {linked user} for {report.reason}"
    | none => s!"{reporter} sent a report for {report.reason}"

/-- What is said when the event of a report cannot be fetched. -/
def fetchFailureText (report : Report) (room event : String) (e : HomeserverError) : String :=
  s!"{linked report.reporter} reported [an event]({Entity.eventLink room event}) " ++
    s!"for {report.reason}, but the event could not be fetched: {e.message}"

/-- The sender of the event that a report is about, if it is about one. -/
def fetchSender (report : Report) : Act σ (Except ReportError (Option String)) := do
  match report.roomId, report.eventId with
  | some room, some event =>
    match ← Act.perform (.eventSender room event) (ctx.homeserver.eventSender room event) with
    | .ok sender => return .ok (some sender)
    | .error e =>
      Act.notice ctx (fetchFailureText report room event e)
      return .error (.eventFetch e)
  | _, _ => return .ok none

/-- The user that a report is about: the sender of its event, or else the user it names. -/
def target (report : Report) (sender : Option String) : Option String :=
  sender.or (report.targetUser.filter fun user => !user.isEmpty)

/-- What is asked of the store before a report is acted upon. -/
def query (entity : String) : PolicyQuery :=
  { mode := .pattern, lists := some ctx.watched, kind := .user, value := entity }

/-- The mutation of a report that asks for a ban. -/
def banMutation (list : WatchedList) (entity reason : String) : Mutation where
  list := list
  kind := .user
  entity := entity
  change := .reportBan reason

/-- What is said to have been done. -/
def actionOf (m : Mutation) (done : Published) : PolicyAction where
  listRoom := m.list.roomId
  listShortcode := m.list.shortcode
  kind := .user
  entity := m.entity
  recommendation := .ban
  reason := done.publication.content.reason
  stateKey := done.publication.stateKey
  eventId := done.eventId

/-- Acts upon a report that asks for a ban, in a list that is known. -/
def banIn (reporter entity reason : String) (list : WatchedList) :
    Act σ (Except ReportError ReportOutcome) := do
  let m := banMutation list entity reason
  match ← m.run ctx reporter with
  | .ok done =>
    Act.notice ctx <|
      s!"Processed {linked reporter}'s report of {linked entity} and sent a ban policy " ++
        s!"to {linkedList list} for {reason}"
    return .ok (.policy (actionOf m done))
  | .error (.conflict c) => return .error (.conflict c)
  | .error (.unpublished e) =>
    Act.notice ctx <|
      s!"Failed to handle {linked reporter}'s report of {linked entity} " ++
        s!"for {linkedList list}: {e.message}"
    return .error (.unpublished e)

/-- Acts upon a report that asks for a ban: what the lists say of the user comes before the list is
looked for. -/
def ban (reporter entity shortcode reason : String) : Act σ (Except ReportError ReportOutcome) := do
  match Decision.reportConflict ((← get).store.find (query ctx entity)) entity with
  | .error c => return .error (.conflict c)
  | .ok () =>
    match ctx.listNamed shortcode with
    | some list => banIn ctx reporter entity reason list
    | none =>
      Act.notice ctx <|
        s!"Failed to handle {linked reporter}'s report of {linked entity}: " ++
          s!"list \"{shortcode}\" not found"
      return .error (.notFound s!"List with shortcode \"{shortcode}\" not found")

/-- Acts upon a report of an administrator. -/
def escalate (reporter entity reason : String) : Act σ (Except ReportError ReportOutcome) := do
  match ReportCommand.parse reason with
  | .error e => return .error (.invalidParam e.message)
  | .ok (some (.ban list reason)) => ban ctx reporter entity list reason
  | .ok (some (.unknown _)) => return .ok .ignored
  | .ok none => return .ok .ignored

/-- Handles a report. -/
def handle (report : Report) : Act σ (Except ReportError ReportOutcome) := do
  match ← fetchSender ctx report with
  | .error e => return .error e
  | .ok sender =>
    match target report sender with
    | some entity =>
      if ctx.isAdmin report.reporter && ReportCommand.isCommand report.reason then
        escalate ctx report.reporter entity report.reason
      else
        Act.notice ctx (noticeText report sender)
        return .ok .notice
    | none =>
      Act.notice ctx (noticeText report sender)
      return .ok .notice

end Reports
end Moderation

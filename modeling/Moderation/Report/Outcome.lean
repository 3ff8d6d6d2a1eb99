import Moderation.Policy.Record
/-!
# Outcomes of reports

A report is shown to the moderators, passed over, or acted upon by a rule that was sent to a list.
-/

namespace Moderation

/-- A rule that was sent to a list, with the event that carries it. -/
structure PolicyAction where
  listRoom : String
  listShortcode : String
  kind : EntityKind
  entity : String
  recommendation : Recommendation
  reason : String
  stateKey : String
  eventId : String
  deriving DecidableEq, Repr

/-- What came of a report. -/
inductive ReportOutcome where
  | notice
  | ignored
  | policy (action : PolicyAction)
  deriving DecidableEq, Repr

end Moderation

import Moderation.Policy.Summary
/-!
# Decisions

Whether a ban, an unban or a removal may go ahead, given the rules that match its entity, and which
state key it takes over.  A standing unban blocks bans; a report never acts over any standing
decision; an unban is not repeated; a removal needs a rule of the kind it names.
-/

namespace Moderation

/-- Why a change to a list is refused. -/
inductive Conflict where
  | unbanRecommended (entity reason : String)
  | alreadyUnbanned (entity reason : String)
  | alreadyBanned (entity reason : String)
  | nothingToRemove (entity : String)
  | recommendationMismatch (entity : String) (expected : Recommendation)
  deriving DecidableEq, Repr

/-- The text of a conflict. -/
def Conflict.message : Conflict → String
  | .unbanRecommended entity reason => s!"`{entity}` has an unban recommendation: {reason}"
  | .alreadyUnbanned entity reason => s!"`{entity}` already has an unban recommendation: {reason}"
  | .alreadyBanned entity reason => s!"`{entity}` is already banned for: {reason}"
  | .nothingToRemove entity => s!"no rule for `{entity}` found"
  | .recommendationMismatch entity .unban => s!"`{entity}` does not have an unban recommendation"
  | .recommendationMismatch entity _ => s!"`{entity}` does not have a ban recommendation"

/-- Which rules a removal takes away. -/
inductive RemovalKind where
  | ban
  | unban
  | any
  deriving DecidableEq, Repr

/-- What a rule has to recommend for a removal to take it away. -/
def RemovalKind.expected : RemovalKind → Option Recommendation
  | .ban => some .ban
  | .unban => some .unban
  | .any => none

namespace Decision

/-- The key of the last of the matching records that stands in a list and is about an entity. -/
def existingKey (found : List PolicyRecord) (listRoom entity : String) : Option String :=
  ((found.filter fun r => r.listRoom = listRoom && r.content.targets entity).getLast?).map
    (·.stateKey)

/-- The rule that recommends an unban, if the matching records amount to one. -/
def standingUnban (found : List PolicyRecord) : Option PolicyRecord :=
  let summary := PolicySummary.ofRecords found
  if summary.isUnban then summary.deciding else none

/-- A ban or a takedown by a command: a standing unban anywhere blocks it. -/
def ban (found : List PolicyRecord) (listRoom entity : String) : Except Conflict (Option String) :=
  match standingUnban found with
  | some r => .error (.unbanRecommended entity r.content.reason)
  | none => .ok (existingKey found listRoom entity)

/-- The standing decision that a report would act over. -/
def reportConflict (found : List PolicyRecord) (entity : String) : Except Conflict Unit :=
  let summary := PolicySummary.ofRecords found
  match summary.deciding with
  | some r =>
    if summary.isUnban then .error (.unbanRecommended entity r.content.reason)
    else .error (.alreadyBanned entity r.content.reason)
  | none => .ok ()

/-- A ban by a report: any standing decision blocks it. -/
def reportBan (found : List PolicyRecord) (listRoom entity : String) :
    Except Conflict (Option String) :=
  match reportConflict found entity with
  | .error conflict => .error conflict
  | .ok () => .ok (existingKey found listRoom entity)

/-- An unban: a standing unban makes it needless. -/
def unban (found : List PolicyRecord) (listRoom entity : String) :
    Except Conflict (Option String) :=
  match standingUnban found with
  | some r => .error (.alreadyUnbanned entity r.content.reason)
  | none => .ok (existingKey found listRoom entity)

/-- A removal: the key of the rule that decides, or else of the first one, if that rule recommends
what the removal asks for.  The records are those of the target list alone. -/
def removal (found : List PolicyRecord) (entity : String) (kind : RemovalKind) :
    Except Conflict String :=
  match (PolicySummary.ofRecords found).deciding.or found.head? with
  | none => .error (.nothingToRemove entity)
  | some r =>
    match kind.expected with
    | some expected =>
      if r.recommendation = some expected then .ok r.stateKey
      else .error (.recommendationMismatch entity expected)
    | none => .ok r.stateKey

end Decision
end Moderation

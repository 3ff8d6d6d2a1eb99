import Moderation.Policy.Record
/-!
# What a set of matching rules amounts to

Several rules can match one entity.  An unban outweighs every ban, wherever it stands; otherwise the
first rule that bans or takes down decides; rules that recommend nothing do not count.
-/

namespace Moderation

/-- The rule that decides among some matching rules, if any does. -/
structure PolicySummary where
  deciding : Option PolicyRecord
  deriving DecidableEq

namespace PolicySummary

/-- Whether a record recommends an unban. -/
def recommendsUnban (r : PolicyRecord) : Bool := r.recommendation = some .unban

/-- Whether a record recommends a ban or a takedown. -/
def recommendsBan (r : PolicyRecord) : Bool := r.recommendation.any Recommendation.isBanLike

/-- The rule that decides once one more was looked at.  An unban takes the place of anything but an
unban, a ban or a takedown only stands where nothing decides yet. -/
def decideWith (deciding : Option PolicyRecord) (r : PolicyRecord) : Option PolicyRecord :=
  match r.recommendation with
  | some .unban => if deciding.bind (·.recommendation) = some .unban then deciding else some r
  | some other => if other.isBanLike && deciding.isNone then some r else deciding
  | none => deciding

/-- The summary of some records, which are looked at one after another. -/
def ofRecords (records : List PolicyRecord) : PolicySummary := ⟨records.foldl decideWith none⟩

/-- What the deciding rule recommends. -/
def recommendation (s : PolicySummary) : Option Recommendation := s.deciding.bind (·.recommendation)

/-- Whether the deciding rule is an unban. -/
def isUnban (s : PolicySummary) : Bool := s.recommendation = some .unban

/-- A summary as messages show it. -/
def text (s : PolicySummary) : String :=
  match s.deciding with
  | some r =>
    "\x7bban_or_unban: " ++ (r.recommendation.map Recommendation.tag).getD "none" ++ " in " ++
      r.listRoom ++ "\x7d"
  | none => "\x7bban_or_unban: none\x7d"

end PolicySummary
end Moderation

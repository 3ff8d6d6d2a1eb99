import Moderation.Entity
/-!
# Policy records

A rule of a policy list: what it is about, why, and what it recommends.  A rule without a
recommendation is a **tombstone**; publishing one takes away the rule that stood under the same key.
A rule names its entity openly, or hides it behind the digest of its identifier.
-/

namespace Moderation

/-- What a rule recommends. -/
inductive Recommendation where
  | ban
  | unban
  | takedown
  deriving DecidableEq, Repr

namespace Recommendation

/-- The tag of a recommendation on the wire. -/
def tag : Recommendation → String
  | .ban => "m.ban"
  | .unban => "net.bulwark.unban"
  | .takedown => "org.matrix.msc4204.takedown"

/-- The recommendation with a tag. -/
def ofTag? : String → Option Recommendation
  | "m.ban" => some .ban
  | "net.bulwark.unban" => some .unban
  | "org.matrix.msc4204.takedown" => some .takedown
  | _ => none

/-- Takedowns block the same way bans do. -/
def isBanLike : Recommendation → Bool
  | .ban => true
  | .takedown => true
  | .unban => false

@[simp] theorem ofTag?_tag (r : Recommendation) : ofTag? r.tag = some r := by cases r <;> rfl

end Recommendation

/-- The digests that stand for a hidden entity. -/
structure PolicyHashes where
  sha256 : Option String := none
  deriving DecidableEq, Repr

/-- The content of a rule. -/
structure PolicyContent where
  entity : String := ""
  reason : String := ""
  recommendation : Option Recommendation := none
  hashes : Option PolicyHashes := none
  deriving DecidableEq, Repr

namespace PolicyContent

/-- The content that takes a rule away. -/
def tombstone : PolicyContent := {}

/-- Whether a content recommends nothing. -/
def isTombstone (c : PolicyContent) : Bool := c.recommendation.isNone

/-- The SHA-256 digest that stands for the entity. -/
def sha256 (c : PolicyContent) : Option String := c.hashes.bind (·.sha256)

/-- Whether a content is about an entity, named openly or by its digest. -/
def targets (c : PolicyContent) (entity : String) : Bool :=
  c.entity = entity || (c.entity.isEmpty && c.sha256 = some (Entity.pseudonym entity))

end PolicyContent

/-- A rule as it stands in a list. -/
structure PolicyRecord where
  listRoom : String
  kind : EntityKind
  stateKey : String
  sender : String
  /-- When the rule was published, in milliseconds since 1970. -/
  timestamp : Int64 := 0
  content : PolicyContent
  deriving DecidableEq

namespace PolicyRecord

/-- What a record is about: its entity, or the digest that stands for it. -/
def entityOrHash (r : PolicyRecord) : String :=
  if r.content.entity.isEmpty then r.content.sha256.getD "" else r.content.entity

/-- What the record recommends. -/
def recommendation (r : PolicyRecord) : Option Recommendation := r.content.recommendation

/-- The place of a record: no list holds two records with one key of one kind. -/
def key (r : PolicyRecord) : String × EntityKind × String := (r.listRoom, r.kind, r.stateKey)

end PolicyRecord

/-- A policy list that is watched, with the short code commands name it by. -/
structure WatchedList where
  roomId : String
  shortcode : String
  name : String
  deriving DecidableEq, Repr

/-- A room that is looked after. -/
structure ProtectedRoom where
  roomId : String
  name : String := ""
  deriving DecidableEq, Repr

end Moderation

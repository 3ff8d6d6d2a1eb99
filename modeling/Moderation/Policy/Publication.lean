import Moderation.Policy.Record
/-!
# Publications

What is sent to a policy list: a content under a state key.  The key of a rule that has none to take
over is derived from the entity and the recommendation, so that the same rule always lands on the
same key.  A rule can hide its entity; its key is derived from the open identifier all the same.
-/

namespace Moderation

/-- The state key of a rule about an entity that has no key to take over. -/
def derivedStateKey (entity : String) (recommendation : Option Recommendation) : String :=
  Base64.encode (sha256Text (entity ++ (recommendation.map Recommendation.tag).getD "")).toList

/-- A content to be published under a state key. -/
structure Publication where
  stateKey : String
  content : PolicyContent
  /-- The digest of the entity, when the content hides it. -/
  entityHash : Option String := none
  deriving DecidableEq

namespace Publication

/-- The key to publish under: the one to take over, unless it is missing or empty. -/
def stateKeyFor (reuse : Option String) (entity : String) (recommendation : Option Recommendation) :
    String :=
  match reuse with
  | some key => if key.isEmpty then derivedStateKey entity recommendation else key
  | none => derivedStateKey entity recommendation

/-- A rule about an entity, named openly or hidden behind its digest.  A takedown gives no
reason. -/
def rule (entity : String) (recommendation : Recommendation) (reason : String) (hashed : Bool)
    (reuse : Option String) : Publication :=
  let digest := Entity.pseudonym entity
  { stateKey := stateKeyFor reuse entity (some recommendation)
    content :=
      { entity := if hashed then "" else entity
        reason := if recommendation = .takedown then "" else reason
        recommendation := some recommendation
        hashes := if hashed then some ⟨some digest⟩ else none }
    entityHash := if hashed then some digest else none }

/-- The tombstone that takes away the rule under a key. -/
def removal (entity : String) (reuse : Option String) : Publication :=
  { stateKey := stateKeyFor reuse entity none
    content := .tombstone }

/-- The name under which the publication is written down: the digest if the entity is hidden. -/
def subject (p : Publication) (entity : String) : String := p.entityHash.getD entity

end Publication
end Moderation

import Moderation.Glob
import Moderation.Policy.Record
/-!
# Queries

What is asked of a store: the rules of one kind, in some lists or in all, that are about a value.
An **exact** query finds the rules that name the value or hide it behind its digest; a **pattern**
query finds the rules too whose entity is a glob that matches it.
-/

namespace Moderation

/-- How the entity of a rule is compared with a value. -/
inductive MatchMode where
  | exact
  | pattern
  deriving DecidableEq, Repr

/-- A query; without lists it goes to all of them. -/
structure PolicyQuery where
  mode : MatchMode
  lists : Option (List String) := none
  kind : EntityKind
  value : String
  deriving DecidableEq, Repr

/-- Whether a text with wildcards matches a value; one that is too large to be matched does not. -/
def Glob.covers (pattern value : String) : Bool :=
  Glob.isGlob pattern &&
    match Glob.compile pattern with
    | .ok g => g.isMatch value
    | .error _ => false

/-- Whether a content is about a value.  A tombstone is about nothing. -/
def PolicyContent.concerns (c : PolicyContent) (mode : MatchMode) (value : String) : Bool :=
  if c.isTombstone then false
  else if c.entity.isEmpty then c.sha256 = some (Entity.pseudonym value)
  else if c.entity = value then true
  else
    match mode with
    | .exact => false
    | .pattern => Glob.covers c.entity value

/-- Whether a record answers a query. -/
def PolicyQuery.accepts (q : PolicyQuery) (r : PolicyRecord) : Bool :=
  r.kind = q.kind && q.lists.all (r.listRoom ∈ ·) && r.content.concerns q.mode q.value

end Moderation

import Moderation.Store.Query
/-!
# A store in memory

The rules as they stand, in the order in which their keys were first published, and the users behind
the digests that are known.  Publishing a rule puts it in the place of the one under its key;
publishing a tombstone takes that one away.
-/

namespace Moderation

/-- The rules after one more has been published. -/
def publishRecord (r : PolicyRecord) : List PolicyRecord → List PolicyRecord
  | [] => if r.content.isTombstone then [] else [r]
  | p :: rest =>
    if p.key = r.key then if r.content.isTombstone then rest else r :: rest
    else p :: publishRecord r rest

/-- Rules and known users, in memory. -/
structure MemoryStore where
  records : List PolicyRecord := []
  users : List (Digest × String) := []

namespace MemoryStore

/-- The records that answer a query. -/
def find (s : MemoryStore) (q : PolicyQuery) : List PolicyRecord := s.records.filter q.accepts

/-- Publishes a record. -/
def publish (s : MemoryStore) (r : PolicyRecord) : MemoryStore :=
  { s with records := publishRecord r s.records }

/-- Remembers a user under its digest. -/
def remember (s : MemoryStore) (user : String) : MemoryStore :=
  { s with users := (sha256Text user, user) :: s.users.filter (·.1 ≠ sha256Text user) }

/-- The user behind a digest. -/
def reverse (s : MemoryStore) (d : Digest) : Option String := (s.users.find? (·.1 = d)).map (·.2)

end MemoryStore
end Moderation

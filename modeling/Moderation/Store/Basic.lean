import Moderation.Store.Database
import Moderation.Store.Memory
/-!
# The policy store

The bot keeps what it knows of the policy lists in memory or in a database; both answer the same
questions.
-/

namespace Moderation

/-- A policy store. -/
inductive Store where
  | memory (s : MemoryStore)
  | database (d : Database)

namespace Store

/-- The records that answer a query, in the order of their keys. -/
def find (q : PolicyQuery) : Store → List PolicyRecord
  | .memory s => s.find q
  | .database d => d.find q

/-- Publishes a record. -/
def publish (r : PolicyRecord) : Store → Store
  | .memory s => .memory (s.publish r)
  | .database d => .database (d.publish r)

/-- Remembers a user under its digest. -/
def remember (user : String) : Store → Store
  | .memory s => .memory (s.remember user)
  | .database d => .database (d.remember user)

/-- The user behind a digest. -/
def reverse (digest : Digest) : Store → Option String
  | .memory s => s.reverse digest
  | .database d => d.reverse digest

/-- The store after a restart: what is in memory is lost. -/
def restart : Store → Store
  | .memory _ => .memory {}
  | .database d => .database d.reopen

end Store
end Moderation

/-!
# Locks

There is one lock for each list and entity that somebody holds it for or waits for it.  Whoever
**asks** is given the lock in the table, or a new one that goes into the table; locks in the table
that nobody uses any more are taken out at that moment and at no other.  Then one of those who wait
is **granted** the lock when nobody holds it, and **releases** it in the end.

The events come in any order in which each of them can happen, so a run is a list of events.
-/

namespace Moderation

/-- What a lock is for. -/
structure LockKey where
  listRoom : String
  entity : String
  deriving DecidableEq, Repr

/-- Somebody who holds a lock or waits for it, known by a ticket.  A lock is known by the ticket of
the one it was made for. -/
structure LockUse where
  ticket : Nat
  key : LockKey
  lock : Nat
  holds : Bool := false
  deriving DecidableEq, Repr

/-- The locks at some moment: the table, who uses them, and how many tickets were given out. -/
structure Locks where
  table : List (LockKey × Nat) := []
  uses : List LockUse := []
  tickets : Nat := 0
  deriving DecidableEq, Repr

/-- What happens to locks. -/
inductive LockEvent where
  | ask (key : LockKey)
  | grant (ticket : Nat)
  | release (ticket : Nat)
  deriving DecidableEq, Repr

namespace Locks

/-- Whether somebody holds a lock or waits for it. -/
def isUsed (s : Locks) (lock : Nat) : Bool := s.uses.any (·.lock = lock)

/-- Whether somebody holds a lock. -/
def isHeld (s : Locks) (lock : Nat) : Bool := s.uses.any fun u => u.lock = lock && u.holds

/-- The table without the locks that nobody uses. -/
def usedTable (s : Locks) : List (LockKey × Nat) := s.table.filter fun e => s.isUsed e.2

/-- Somebody new waits for the lock for a key. -/
def ask (s : Locks) (key : LockKey) : Locks :=
  let (table, lock) := match s.usedTable.lookup key with
    | some lock => (s.usedTable, lock)
    | none => (s.usedTable ++ [(key, s.tickets)], s.tickets)
  { table, uses := s.uses ++ [{ ticket := s.tickets, key, lock }], tickets := s.tickets + 1 }

/-- Somebody who waits is given a lock that nobody holds. -/
def grant (s : Locks) (ticket : Nat) : Option Locks :=
  match s.uses.find? (·.ticket = ticket) with
  | none => none
  | some u =>
    if u.holds || s.isHeld u.lock then none
    else some { s with
      uses := s.uses.map fun v => if v.ticket = ticket then { v with holds := true } else v }

/-- Somebody who holds a lock gives it back. -/
def release (s : Locks) (ticket : Nat) : Option Locks :=
  if s.uses.any fun u => u.ticket = ticket && u.holds then
    some { s with uses := s.uses.filter fun u => u.ticket ≠ ticket }
  else none

/-- The locks after an event, if it can happen. -/
def step (s : Locks) : LockEvent → Option Locks
  | .ask key => some (s.ask key)
  | .grant ticket => s.grant ticket
  | .release ticket => s.release ticket

/-- The locks after a run. -/
def run (events : List LockEvent) : Option Locks := events.foldlM step {}

end Locks
end Moderation

import Moderation.Moderator.Lock
import Moderation.Moderator.Mutation
/-!
# Mutations at the same time

Several mutations that are under way take their steps in any order.  A mutation waits for the lock
for its list and its entity, which nobody else may hold; holding it, it plans with the store as it
is then, sends what it has planned, is answered, settles the answer and gives the lock back.  A
mutation of a report looks at the store once before it waits, and ends there if the store already
says something.

A mutation brings with it what the world will give it: the answer to its publication and the time.
An interleaving is a **schedule**, the positions of the mutations that take a step, one after the
other.
-/

namespace Moderation

/-- Where a mutation is. -/
inductive Phase where
  /-- It has not begun. -/
  | idle
  /-- It waits for its lock. -/
  | waiting
  /-- It holds its lock. -/
  | locked
  /-- It has planned a publication. -/
  | planned (p : Publication)
  /-- Its publication was sent and has been answered. -/
  | answered (p : Publication) (answer : Answer String)
  /-- It has settled the answer, or had nothing to send. -/
  | settled (result : Except MutationFailure Published)
  /-- It is over. -/
  | over (result : Except MutationFailure Published)

/-- Whether a mutation holds its lock. -/
def Phase.holdsLock : Phase → Bool
  | .locked => true
  | .planned _ => true
  | .answered _ _ => true
  | .settled _ => true
  | _ => false

/-- A mutation that is under way, with what the world gives it. -/
structure Task where
  mutation : Mutation
  answer : Answer String
  timestamp : Int64
  phase : Phase := .idle

namespace Task

/-- The lock that a task needs. -/
def lockKey (t : Task) : LockKey :=
  { listRoom := t.mutation.list.roomId, entity := t.mutation.entity }

/-- Whether a task holds a lock. -/
def holds (t : Task) (key : LockKey) : Bool := t.phase.holdsLock && t.lockKey = key

/-- What came of a publication that was answered. -/
def result (p : Publication) : Answer String → Except MutationFailure Published
  | .ok eventId => .ok { publication := p, eventId }
  | .error e => .error (.unpublished e)

end Task

/-- Mutations that are under way: the store, the tasks, and what was sent, in order. -/
structure Interleaving where
  store : Store
  tasks : List Task
  sent : List (Mutation × Publication) := []

namespace Interleaving

variable (watched : List String) (sender : String)

/-- Whether some task holds a lock. -/
def isHeld (s : Interleaving) (key : LockKey) : Bool := s.tasks.any (·.holds key)

/-- The interleaving with a task in another phase. -/
def move (s : Interleaving) (i : Nat) (t : Task) (phase : Phase) : Interleaving :=
  { s with tasks := s.tasks.set i { t with phase } }

/-- What a mutation does before it waits: that of a report looks at the store. -/
def begin (s : Interleaving) (m : Mutation) : Phase :=
  match m.change with
  | .reportBan _ =>
    match Decision.reportConflict (s.store.find (m.query watched)) m.entity with
    | .ok () => .waiting
    | .error c => .over (.error (.conflict c))
  | _ => .waiting

/-- The interleaving after a step of the task at a position, if it can take one. -/
def step (s : Interleaving) (i : Nat) : Option Interleaving := do
  let t ← s.tasks[i]?
  let m := t.mutation
  match t.phase with
  | .idle => some (s.move i t (s.begin watched m))
  | .waiting => if s.isHeld t.lockKey then none else some (s.move i t .locked)
  | .locked =>
    match m.plan watched s.store with
    | .ok p => some (s.move i t (.planned p))
    | .error c => some (s.move i t (.settled (.error (.conflict c))))
  | .planned p => some { s.move i t (.answered p t.answer) with sent := s.sent ++ [(m, p)] }
  | .answered p answer =>
    let store := if answer.toOption.isSome then m.recordIn p sender t.timestamp s.store else s.store
    some { s.move i t (.settled (Task.result p answer)) with store }
  | .settled result => some (s.move i t (.over result))
  | .over _ => none

/-- The interleaving after a schedule, if every step of it can be taken. -/
def run (s : Interleaving) (schedule : List Nat) : Option Interleaving :=
  schedule.foldlM (step watched sender) s

/-- Whether every task is over. -/
def isOver (s : Interleaving) : Bool :=
  s.tasks.all fun t => match t.phase with
    | .over _ => true
    | _ => false

/-- What came of the tasks that are over. -/
def results (s : Interleaving) : List (Option (Except MutationFailure Published)) :=
  s.tasks.map fun t => match t.phase with
    | .over result => some result
    | _ => none

end Interleaving
end Moderation

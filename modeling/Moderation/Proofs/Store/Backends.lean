import Moderation.Proofs.Digest.Hex
import Moderation.Proofs.Store.Contents
import Moderation.Proofs.Store.RowOrder
import Moderation.Store.Cached
/-!
# Stores that answer alike

A store is **called**: records are published, users are remembered, and queries and digests are
answered.  A database and a memory that hold the same (`Database.Mirrors`) give the same answer to
a call and hold the same afterwards (`CachedStore.Alike.call`), and opening the database again
changes nothing in what it holds.  So a database that is opened again now and then and a memory
that lives on answer the same, call by call (`CachedStore.answers_eq`).

The rows of a database stand in the order in which queries read them.  Where they have numbers and
lie in any order, a query sees them in the order of these (`NumberedTables.view`), and every call is
answered as by that database (`NumberedTables.answers_view`).
-/

namespace Moderation

/-- Something that is asked of a store.  A query may be an exact one for entities of any kind, or
one by pattern for users, rooms or servers. -/
inductive StoreCall where
  | publish (r : PolicyRecord)
  | remember (user : String)
  | reverse (digest : Digest)
  | find (q : PolicyQuery)

/-- What a store answers. -/
inductive StoreAnswer where
  | done
  | user (name : Option String)
  | found (records : List PolicyRecord)
  deriving DecidableEq

/-- Something that happens to a store: a call, or that it is closed and opened again. -/
inductive StoreStep where
  | call (c : StoreCall)
  | reopen

namespace CachedStore

/-- The answer to a call, and the store afterwards. -/
def call (s : CachedStore) : StoreCall → StoreAnswer × CachedStore
  | .publish r => (.done, s.publish r)
  | .remember user => (.done, s.remember user)
  | .reverse digest => (.user (s.reverse digest), s)
  | .find q => (.found (s.find q).1, (s.find q).2)

/-- The answers that a store gives, one after another. -/
def answers (s : CachedStore) : List StoreStep → List StoreAnswer
  | [] => []
  | .call c :: steps => (s.call c).1 :: (s.call c).2.answers steps
  | .reopen :: steps => s.restart.answers steps

end CachedStore

/-- The calls among some steps. -/
def StoreStep.calls (steps : List StoreStep) : List StoreStep :=
  steps.filter fun
    | call _ => true
    | reopen => false

/-! ## Users behind digests -/

/-- Entries that are dropped are not found; the others are found as before. -/
theorem find?_filter_ne {α β : Type} [DecidableEq α] (entries : List (α × β)) (dropped key : α) :
    (entries.filter (·.1 ≠ dropped)).find? (·.1 = key) =
      if key = dropped then none else entries.find? (·.1 = key) := by
  rw [List.find?_filter]
  split
  · next h => simp [h]
  · next h =>
    congr 1
    funext e
    rw [Bool.eq_iff_iff]
    simp
    rintro rfl
    exact h

/-- A user that is remembered is the one behind its digest; behind the others are the users that
were there. -/
theorem MemoryStore.reverse_remember (m : MemoryStore) (user : String) (digest : Digest) :
    (m.remember user).reverse digest =
      if digest = sha256Text user then some user else m.reverse digest := by
  simp only [reverse, remember, List.find?_cons, find?_filter_ne]
  by_cases h : digest = sha256Text user
  · simp [h]
  · simp [h, Ne.symm h]

theorem Database.reverse_remember {d : Database} (hd : d.hashes.isSome = true) (user : String)
    (digest : Digest) :
    (d.remember user).reverse digest =
      if digest = sha256Text user then some user else d.reverse digest := by
  have hkey : hashKey digest = hashKey (sha256Text user) ↔ digest = sha256Text user :=
    ⟨digest_eq_of_toHex_eq, fun h => by rw [h]⟩
  obtain ⟨rows, hrows⟩ := Option.isSome_iff_exists.1 hd
  simp only [reverse, remember, hrows, Option.map_some, Option.getD_some, List.find?_append,
    find?_filter_ne, hkey]
  by_cases h : digest = sha256Text user
  · simp [h]
  · have hne : hashKey (sha256Text user) ≠ hashKey digest := fun he => h (hkey.1 he.symm)
    simp [h, hne]

/-! ## A database and a memory -/

/-- A database that has all its tables and holds what a memory holds. -/
structure Database.Mirrors (d : Database) (m : MemoryStore) : Prop where
  records : d.records? = some m.records
  keyed : Keyed m.records
  hashes : d.hashes.isSome = true
  users : ∀ digest, d.reverse digest = m.reverse digest

namespace Database.Mirrors

variable {d : Database} {m : MemoryStore}

theorem fresh : Mirrors {} {} where
  records := rfl
  keyed := List.nodup_nil
  hashes := rfl
  users := fun _ => rfl

/-- Both find the same records, in the same order. -/
theorem find_eq (h : Mirrors d m) (q : PolicyQuery) : d.find q = m.find q :=
  Store.find_eq_filter (s := .database d) h.records q

theorem publish (h : Mirrors d m) (r : PolicyRecord) : Mirrors (d.publish r) (m.publish r) where
  records := Store.records?_publish (s := .database d) h.records h.keyed r
  keyed := keyed_publishRecord r h.keyed
  hashes := h.hashes
  users := h.users

theorem remember (h : Mirrors d m) (user : String) :
    Mirrors (d.remember user) (m.remember user) where
  records := h.records
  keyed := h.keyed
  hashes := by simpa [Database.remember] using h.hashes
  users := fun digest => by
    rw [Database.reverse_remember h.hashes, MemoryStore.reverse_remember, h.users]

theorem reopen (h : Mirrors d m) : Mirrors d.reopen m where
  records := by
    obtain ⟨rows, hrows, hrecords⟩ := Option.bind_eq_some_iff.1 h.records
    rw [Database.records?, Database.reopen, hrows]
    exact hrecords
  keyed := h.keyed
  hashes := rfl
  users := h.users

end Database.Mirrors

namespace CachedStore

/-- A store in a database and one in memory that hold the same, whatever globs they keep. -/
def Alike (s t : CachedStore) : Prop :=
  ∃ d m, s.store = .database d ∧ t.store = .memory m ∧ d.Mirrors m

variable {s t : CachedStore}

/-- **A call is answered alike by stores that are alike**, and they are alike afterwards. -/
theorem Alike.call (h : Alike s t) (c : StoreCall) :
    (s.call c).1 = (t.call c).1 ∧ Alike (s.call c).2 (t.call c).2 := by
  obtain ⟨d, m, hs, ht, hdm⟩ := h
  cases c with
  | publish r =>
    exact ⟨rfl, d.publish r, m.publish r, congrArg (Store.publish r) hs,
      congrArg (Store.publish r) ht, hdm.publish r⟩
  | remember user =>
    exact ⟨rfl, d.remember user, m.remember user, congrArg (Store.remember user) hs,
      congrArg (Store.remember user) ht, hdm.remember user⟩
  | reverse digest =>
    refine ⟨?_, d, m, hs, ht, hdm⟩
    simp only [CachedStore.call, reverse, Store.reverse, hs, ht, hdm.users]
  | find q =>
    -- The globs that are kept after a query do not matter.
    refine ⟨?_, d, m, hs, ht, hdm⟩
    simp only [CachedStore.call, find_fst, Store.find, hs, ht, hdm.find_eq]

theorem Alike.restart (h : Alike s t) : Alike s.restart t := by
  obtain ⟨d, m, hs, ht, hdm⟩ := h
  exact ⟨d.reopen, m, congrArg Store.restart hs, ht, hdm.reopen⟩

theorem Alike.answers (h : Alike s t) (steps : List StoreStep) :
    s.answers steps = t.answers (StoreStep.calls steps) := by
  induction steps generalizing s t with
  | nil => rfl
  | cons step steps ih =>
    cases step with
    | call c =>
      obtain ⟨hanswer, hafter⟩ := h.call c
      exact List.cons_eq_cons.2 ⟨hanswer, ih hafter⟩
    | reopen => exact ih h.restart

end CachedStore

/-! ## A database with numbered rows -/

/-- The tables of a database, the rows of the rules with their numbers. -/
structure NumberedTables where
  policies : RowTable := {}
  hashes : List (String × String) := []

namespace NumberedTables

/-- The database that queries see: the rows in the order of their numbers. -/
def view (t : NumberedTables) : Database where
  policies := some t.policies.ordered
  hashes := some t.hashes

/-- The answer to a call, and the tables afterwards. -/
def call (t : NumberedTables) : StoreCall → StoreAnswer × NumberedTables
  | .publish r => (.done, { t with policies := t.policies.publish r })
  | .remember user =>
    let key := Database.hashKey (sha256Text user)
    (.done, { t with hashes := t.hashes.filter (·.1 ≠ key) ++ [(key, user)] })
  | .reverse digest => (.user (t.view.reverse digest), t)
  | .find q => (.found (t.view.find q), t)

/-- The answers that are given, one after another.  To open the tables again does not change
them. -/
def answers (t : NumberedTables) : List StoreStep → List StoreAnswer
  | [] => []
  | .call c :: steps => (t.call c).1 :: (t.call c).2.answers steps
  | .reopen :: steps => t.answers steps

theorem view_publish {t : NumberedTables} (h : t.policies.Unique) (r : PolicyRecord) :
    t.view.publish r = (t.call (.publish r)).2.view := by
  have hrows := RowTable.ordered_publish (d := t.view) h rfl r
  simp only [Database.publish, view, call] at hrows ⊢
  rw [hrows]

/-- **Tables with numbered rows answer like the database that queries see.** -/
theorem answers_view {t : NumberedTables} (h : t.policies.Unique) (globs : GlobCache)
    (steps : List StoreStep) :
    t.answers steps = CachedStore.answers ⟨.database t.view, globs⟩ steps := by
  induction steps generalizing t globs with
  | nil => rfl
  | cons step steps ih =>
    cases step with
    | reopen => exact ih h _
    | call c =>
      cases c with
      | publish r =>
        have hrest := ih (t := (t.call (.publish r)).2) (h.publish r)
        rw [← view_publish h r] at hrest
        exact congrArg (StoreAnswer.done :: ·) (hrest _)
      | remember user =>
        exact congrArg (StoreAnswer.done :: ·) (ih (t := (t.call (.remember user)).2) h _)
      | reverse digest => exact congrArg (_ :: ·) (ih h _)
      | find q =>
        have hfound : t.view.find q = (CachedStore.find ⟨.database t.view, globs⟩ q).1 :=
          (CachedStore.find_fst ⟨.database t.view, globs⟩ q).symm
        exact List.cons_eq_cons.2 ⟨congrArg StoreAnswer.found hfound, ih h _⟩

theorem view_fresh : view {} = {} := by
  simp [view, RowTable.ordered, RowTable.sorted]

end NumberedTables

/-- **A database refines a memory**: over any steps, calls in between which the database is closed
and opened again, it answers each call with what a memory answers that takes the same calls.  So do
tables whose rows have numbers and are read in their order. -/
theorem CachedStore.answers_eq (steps : List StoreStep) :
    answers { store := .database {} } steps =
        answers { store := .memory {} } (StoreStep.calls steps) ∧
      NumberedTables.answers {} steps =
        answers { store := .memory {} } (StoreStep.calls steps) := by
  have hdatabase : answers { store := .database {} } steps =
      answers { store := .memory {} } (StoreStep.calls steps) :=
    Alike.answers ⟨{}, {}, rfl, rfl, .fresh⟩ steps
  have hnumbered := NumberedTables.answers_view (t := {}) ⟨List.nodup_nil, List.nodup_nil⟩ {} steps
  rw [NumberedTables.view_fresh] at hnumbered
  exact ⟨hdatabase, hnumbered.trans hdatabase⟩

end Moderation

import Moderation.Store.Basic
/-!
# A store that keeps its globs

Making a glob ready for matching takes time, so globs that are ready are **kept**: those of the
rules that are published, and those that a query comes upon.  What is kept is what would be made
anew (`GlobCache.compiled`), so it never shows in an answer: a query finds what it finds in the
store alone (`CachedStore.find_fst`), whatever was published and asked before.
-/

namespace Moderation

/-- Globs that are ready, each under its pattern. -/
structure GlobCache where
  ready : List (String × Glob) := []
  compiled : ∀ e ∈ ready, Glob.compile e.1 = .ok e.2 := by exact List.forall_mem_nil _

namespace GlobCache

/-- The glob that is kept for a pattern. -/
def get? (c : GlobCache) (pattern : String) : Option Glob := c.ready.lookup pattern

/-- Keeps one more glob. -/
def insert (c : GlobCache) (pattern : String) (g : Glob) (h : Glob.compile pattern = .ok g) :
    GlobCache where
  ready := (pattern, g) :: c.ready
  compiled := by
    intro e he
    rcases List.mem_cons.1 he with rfl | he
    · exact h
    · exact c.compiled e he

/-- Keeps the glob of a pattern, unless it is kept already or too large. -/
def keep (c : GlobCache) (pattern : String) : GlobCache :=
  if (c.get? pattern).isSome then c
  else match h : Glob.compile pattern with
    | .ok g => c.insert pattern g h
    | .error _ => c

/-- Whether a text with wildcards matches a value, and the globs that are kept afterwards. -/
def covers (c : GlobCache) (pattern value : String) : Bool × GlobCache :=
  let c := c.keep pattern
  ((c.get? pattern).any (·.isMatch value), c)

theorem compile_of_get? {c : GlobCache} {pattern : String} {g : Glob}
    (h : c.get? pattern = some g) : Glob.compile pattern = .ok g := by
  obtain ⟨before, after, heq, _⟩ := List.lookup_eq_some_iff.1 h
  exact c.compiled (pattern, g) (by simp [heq])

/-- What is kept for a pattern after it was asked for is what it compiles to. -/
theorem get?_keep (c : GlobCache) (pattern : String) :
    (c.keep pattern).get? pattern = (Glob.compile pattern).toOption := by
  unfold keep
  split
  · next h =>
    obtain ⟨g, hg⟩ := Option.isSome_iff_exists.1 h
    simp [hg, compile_of_get? hg, Except.toOption]
  · next h =>
    have hn : c.get? pattern = none := by simpa using h
    split
    · next g hg => simp [insert, get?, hg, Except.toOption]
    · next e he => simp [hn, he, Except.toOption]

theorem covers_fst (c : GlobCache) {pattern : String} (value : String)
    (h : Glob.isGlob pattern = true) : (c.covers pattern value).1 = Glob.covers pattern value := by
  simp only [covers, get?_keep, Glob.covers, h, Bool.true_and]
  cases Glob.compile pattern <;> rfl

end GlobCache

namespace PolicyQuery

variable (q : PolicyQuery)

/-- Whether the entity of a record has to be matched as a glob to answer a query. -/
def needsGlob (r : PolicyRecord) : Bool :=
  q.mode = .pattern && r.kind = q.kind && q.lists.all (r.listRoom ∈ ·) && !r.content.isTombstone &&
    !r.content.entity.isEmpty && r.content.entity ≠ q.value && Glob.isGlob r.content.entity

/-- Whether a record answers a query, and the globs that are kept afterwards. -/
def acceptsWith (c : GlobCache) (r : PolicyRecord) : Bool × GlobCache :=
  if q.needsGlob r then c.covers r.content.entity q.value else (q.accepts r, c)

/-- The records that answer a query, and the globs that are kept afterwards. -/
def filterWith (c : GlobCache) : List PolicyRecord → List PolicyRecord × GlobCache
  | [] => ([], c)
  | r :: rest =>
    let (answers, c) := q.acceptsWith c r
    let (found, c) := filterWith c rest
    (if answers then r :: found else found, c)

theorem acceptsWith_fst (c : GlobCache) (r : PolicyRecord) :
    (q.acceptsWith c r).1 = q.accepts r := by
  unfold acceptsWith
  split
  · next h =>
    simp only [needsGlob, Bool.and_eq_true, decide_eq_true_eq, Bool.not_eq_true', ne_eq] at h
    obtain ⟨⟨⟨⟨⟨⟨hmode, hkind⟩, hlists⟩, htomb⟩, hempty⟩, hvalue⟩, hglob⟩ := h
    simp [c.covers_fst q.value hglob, accepts, PolicyContent.concerns, hmode, hkind, hlists, htomb,
      hempty, hvalue]
  · rfl

theorem filterWith_fst (c : GlobCache) (rs : List PolicyRecord) :
    (q.filterWith c rs).1 = rs.filter q.accepts := by
  induction rs generalizing c with
  | nil => rfl
  | cons r rest ih => simp [filterWith, acceptsWith_fst, ih, List.filter_cons]

end PolicyQuery

/-- A store with the globs that are kept. -/
structure CachedStore where
  store : Store
  globs : GlobCache := {}

namespace CachedStore

/-- The records that a query for a kind looks at. -/
def candidates (s : CachedStore) (kind : EntityKind) : List PolicyRecord :=
  match s.store with
  | .memory m => m.records
  | .database d => d.recordsOf kind

/-- The records that answer a query, and the store afterwards. -/
def find (s : CachedStore) (q : PolicyQuery) : List PolicyRecord × CachedStore :=
  let (found, globs) := q.filterWith s.globs (s.candidates q.kind)
  (found, { s with globs })

/-- Publishes a record, whose glob is kept if it has one. -/
def publish (s : CachedStore) (r : PolicyRecord) : CachedStore where
  store := s.store.publish r
  globs := if Glob.isGlob r.content.entity then s.globs.keep r.content.entity else s.globs

/-- Remembers a user under its digest. -/
def remember (s : CachedStore) (user : String) : CachedStore :=
  { s with store := s.store.remember user }

/-- The user behind a digest. -/
def reverse (s : CachedStore) (digest : Digest) : Option String := s.store.reverse digest

/-- The store after a restart: no glob is kept. -/
def restart (s : CachedStore) : CachedStore := { store := s.store.restart }

/-- The globs that are kept do not show in an answer. -/
theorem find_fst (s : CachedStore) (q : PolicyQuery) : (s.find q).1 = s.store.find q := by
  unfold find candidates
  cases hs : s.store <;>
    simp [PolicyQuery.filterWith_fst, Store.find, MemoryStore.find, Database.find]

end CachedStore
end Moderation

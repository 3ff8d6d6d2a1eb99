import Moderation.Proofs.Store.Publishing
import Moderation.Proofs.Wire.Content
import Moderation.Store.Basic
/-!
# What a store holds

A store in memory holds its records.  A database holds the records in its rows, if it has a table of
rules and every row of it can be read (`Store.records?`).  Seen this way both answer a query with
the records that it accepts, in order (`find_eq_filter`), and publish like a list of records
(`records?_publish`); remembering a user does not show.
-/

namespace Moderation

theorem EntityKind.name_inj {k l : EntityKind} (h : k.name = l.name) : k = l := by
  have ho := congrArg EntityKind.ofName? h
  rw [ofName?_name, ofName?_name] at ho
  exact Option.some.inj ho

namespace PolicyRow

/-- The record in a row, if the kind and the content of the row can be read. -/
def toRecord? (row : PolicyRow) : Option PolicyRecord :=
  (EntityKind.ofName? row.kind).bind (row.record? ·)

theorem toRecord?_ofRecord (r : PolicyRecord) : (ofRecord r).toRecord? = some r := by
  simp [toRecord?, ofRecord, record?, PolicyContent.ofText_render]

theorem ofName?_of_name_eq {name : String} {k : EntityKind} (h : EntityKind.ofName? name = some k) :
    name = k.name := by
  unfold EntityKind.ofName? at h
  split at h <;> simp_all [EntityKind.name] <;> subst h <;> rfl

theorem toRecord?_eq_some {row : PolicyRow} {r : PolicyRecord} (h : row.toRecord? = some r) :
    row.kind = r.kind.name ∧ row.listRoom = r.listRoom ∧ row.stateKey = r.stateKey ∧
      row.record? r.kind = some r := by
  obtain ⟨k, hk, hr⟩ := Option.bind_eq_some_iff.1 h
  have hkind : r.kind = k ∧ row.listRoom = r.listRoom ∧ row.stateKey = r.stateKey := by
    unfold record? at hr
    split at hr
    · obtain rfl := Option.some.inj hr
      exact ⟨rfl, rfl, rfl⟩
    · cases hr
  obtain ⟨rfl, hlist, hkey⟩ := hkind
  exact ⟨ofName?_of_name_eq hk, hlist, hkey, hr⟩

/-- A row has the key of another record exactly if its own record has. -/
theorem key_eq_iff {row : PolicyRow} {p : PolicyRecord} (h : row.toRecord? = some p)
    (r : PolicyRecord) :
    row.key = (ofRecord r).key ↔ p.key = r.key := by
  obtain ⟨hkind, hlist, hkey, -⟩ := toRecord?_eq_some h
  simp only [key, ofRecord, PolicyRecord.key, Prod.mk.injEq, hkind, hlist, hkey]
  constructor
  · rintro ⟨hl, hn, hk⟩
    exact ⟨hl, EntityKind.name_inj hn, hk⟩
  · rintro ⟨hl, hn, hk⟩
    exact ⟨hl, by rw [hn], hk⟩

theorem mapM_cons_eq_some {row : PolicyRow} {rows : List PolicyRow} {records : List PolicyRecord} :
    (row :: rows).mapM toRecord? = some records ↔
      ∃ p rest, row.toRecord? = some p ∧ rows.mapM toRecord? = some rest ∧ records = p :: rest := by
  rw [List.mapM_cons]
  simp only [Option.bind_eq_bind, Option.bind_eq_some_iff, Option.pure_def, Option.some.injEq]
  constructor
  · rintro ⟨p, hp, rest, hrest, rfl⟩
    exact ⟨p, rest, hp, hrest, rfl⟩
  · rintro ⟨p, rest, hp, hrest, rfl⟩
    exact ⟨p, hp, rest, hrest, rfl⟩

/-- Rows are read if each of them is. -/
theorem isSome_mapM_toRecord? {rows : List PolicyRow} :
    (rows.mapM toRecord?).isSome = true ↔ ∀ row ∈ rows, row.toRecord?.isSome = true := by
  induction rows with
  | nil => simp
  | cons row rows ih =>
    rw [List.forall_mem_cons, ← ih]
    simp only [Option.isSome_iff_exists, mapM_cons_eq_some]
    constructor
    · rintro ⟨_, p, rest, hp, hrest, -⟩
      exact ⟨⟨p, hp⟩, rest, hrest⟩
    · rintro ⟨⟨p, hp⟩, rest, hrest⟩
      exact ⟨p :: rest, p, rest, hp, hrest, rfl⟩

theorem exists_mem_of_mapM {rows : List PolicyRow} {records : List PolicyRecord} {row : PolicyRow}
    (h : rows.mapM toRecord? = some records) (hrow : row ∈ rows) :
    ∃ r ∈ records, row.toRecord? = some r := by
  induction rows generalizing records with
  | nil => cases hrow
  | cons other rows ih =>
    obtain ⟨p, rest, hp, hrest, rfl⟩ := mapM_cons_eq_some.1 h
    rcases List.mem_cons.1 hrow with rfl | hrow
    · exact ⟨p, List.mem_cons_self, hp⟩
    · obtain ⟨r, hr, hread⟩ := ih hrest hrow
      exact ⟨r, List.mem_cons_of_mem p hr, hread⟩

/-- A row that is put into a table is a record that is published into what the table holds. -/
theorem mapM_upsert {rows : List PolicyRow} {records : List PolicyRecord}
    (h : rows.mapM toRecord? = some records)
    (r : PolicyRecord) (hr : r.content.isTombstone = false) :
    (upsert (ofRecord r) rows).mapM toRecord? = some (publishRecord r records) := by
  induction rows generalizing records with
  | nil =>
    obtain rfl : records = [] := by simpa using h
    simp [upsert, publishRecord, hr, toRecord?_ofRecord]
  | cons row rows ih =>
    obtain ⟨p, rest, hp, hrest, rfl⟩ := mapM_cons_eq_some.1 h
    have hkey := key_eq_iff hp r
    unfold upsert publishRecord
    by_cases hk : p.key = r.key
    · rw [if_pos (hkey.2 hk), if_pos hk, hr]
      exact mapM_cons_eq_some.2 ⟨r, rest, toRecord?_ofRecord r, hrest, rfl⟩
    · rw [if_neg fun he => hk (hkey.1 he), if_neg hk]
      exact mapM_cons_eq_some.2 ⟨p, publishRecord r rest, hp, ih hrest, rfl⟩

/-- The rows that are left when those of a key are deleted are the records that are left after a
tombstone. -/
theorem mapM_delete {rows : List PolicyRow} {records : List PolicyRecord}
    (h : rows.mapM toRecord? = some records)
    (hk : Keyed records) (r : PolicyRecord) (hr : r.content.isTombstone = true) :
    (rows.filter (·.key ≠ (ofRecord r).key)).mapM toRecord? = some (publishRecord r records) := by
  induction rows generalizing records with
  | nil =>
    obtain rfl : records = [] := by simpa using h
    simp [publishRecord, hr]
  | cons row rows ih =>
    obtain ⟨p, rest, hp, hrest, rfl⟩ := mapM_cons_eq_some.1 h
    have hkey := key_eq_iff hp r
    unfold publishRecord
    by_cases hpr : p.key = r.key
    · rw [List.filter_cons_of_neg (by simpa using hkey.2 hpr), if_pos hpr, hr, if_pos rfl]
      -- The key stood on this row alone, so the tombstone changes nothing in the others.
      rw [ih hrest hk.tail, publishRecord_tombstone hr fun q hq => hpr ▸ hk.key_ne hq]
    · rw [List.filter_cons_of_pos (by simpa using fun he => hpr (hkey.1 he)), if_neg hpr]
      exact mapM_cons_eq_some.2 ⟨p, publishRecord r rest, hp, ih hrest hk.tail, rfl⟩

/-- The rows of a kind hold the records of that kind. -/
theorem mapM_filter_kind {rows : List PolicyRow} {records : List PolicyRecord}
    (h : rows.mapM toRecord? = some records) (kind : EntityKind) :
    (rows.filter (·.kind = kind.name)).mapM (record? kind) =
      some (records.filter (·.kind = kind)) := by
  induction rows generalizing records with
  | nil =>
    obtain rfl : records = [] := by simpa using h
    rfl
  | cons row rows ih =>
    obtain ⟨p, rest, hp, hrest, rfl⟩ := mapM_cons_eq_some.1 h
    obtain ⟨hname, -, -, hrecord⟩ := toRecord?_eq_some hp
    by_cases hkind : p.kind = kind
    · subst hkind
      rw [List.filter_cons_of_pos (by simpa using hname), List.filter_cons_of_pos (by simp),
        List.mapM_cons, hrecord,
        ih hrest]
      rfl
    · have hne : row.kind ≠ kind.name := fun he => hkind (EntityKind.name_inj (hname.symm.trans he))
      rw [List.filter_cons_of_neg (by simpa using hne),
        List.filter_cons_of_neg (by simpa using hkind)]
      exact ih hrest

end PolicyRow

/-- The records in the rows of a database, if it has a table of rules and each of its rows can be
read. -/
def Database.records? (d : Database) : Option (List PolicyRecord) :=
  d.policies.bind (·.mapM PolicyRow.toRecord?)

theorem PolicyQuery.kind_eq {q : PolicyQuery} {r : PolicyRecord} (h : q.accepts r = true) :
    r.kind = q.kind := by
  simp only [accepts, Bool.and_eq_true, decide_eq_true_eq] at h
  exact h.1.1

theorem PolicyQuery.accepts_and_kind (q : PolicyQuery) (r : PolicyRecord) :
    (q.accepts r && decide (r.kind = q.kind)) = q.accepts r := by
  cases h : q.accepts r with
  | false => rfl
  | true => simpa using q.kind_eq h

namespace Store

/-- The records that a store holds, if it can be read. -/
def records? : Store → Option (List PolicyRecord)
  | .memory s => some s.records
  | .database d => d.records?

variable {s : Store} {records : List PolicyRecord}

/-- **A store answers a query with the records that the query accepts.** -/
theorem find_eq_filter (h : s.records? = some records) (q : PolicyQuery) :
    s.find q = records.filter q.accepts := by
  cases s with
  | memory m =>
    obtain rfl : m.records = records := Option.some.inj h
    rfl
  | database d =>
    obtain ⟨rows, hrows, hrecords⟩ := Option.bind_eq_some_iff.1 h
    have hkind : d.recordsOf q.kind = records.filter (·.kind = q.kind) := by
      rw [Database.recordsOf, hrows, Option.getD_some, PolicyRow.mapM_filter_kind hrecords,
        Option.getD_some]
    simp only [find, Database.find, hkind, List.filter_filter, q.accepts_and_kind]

/-- **A store publishes like a list of records.** -/
theorem records?_publish (h : s.records? = some records) (hk : Keyed records) (r : PolicyRecord) :
    (s.publish r).records? = some (publishRecord r records) := by
  cases s with
  | memory m =>
    obtain rfl : m.records = records := Option.some.inj h
    rfl
  | database d =>
    obtain ⟨rows, hrows, hrecords⟩ := Option.bind_eq_some_iff.1 h
    simp only [publish, records?, Database.publish, Database.records?, hrows, Option.map_some,
      Option.bind_some]
    cases hr : r.content.isTombstone with
    | true => exact PolicyRow.mapM_delete hrecords hk r hr
    | false => exact PolicyRow.mapM_upsert hrecords r hr

@[simp] theorem records?_remember (s : Store) (user : String) :
    (s.remember user).records? = s.records? := by
  cases s <;> rfl

end Store
end Moderation

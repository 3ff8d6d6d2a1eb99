import Moderation.Proofs.Store.Contents
/-!
# What a store holds of a kind

A query goes to the rules of one kind only, and rows of another kind do not matter to it, be they
readable or not.  So what is said of a store that can be read as a whole holds of the rules of a
kind if these can be read (`Store.recordsOf?`): a query is answered with the records that it accepts
(`Store.find_eq`), and a rule is published like to a list of records (`Store.recordsOf?_publish`).
-/

namespace Moderation

/-- What is published of a kind goes to the records of that kind. -/
theorem filter_kind_publishRecord (r : PolicyRecord) (records : List PolicyRecord) :
    (publishRecord r records).filter (·.kind = r.kind) =
      publishRecord r (records.filter (·.kind = r.kind)) := by
  induction records with
  | nil => cases htomb : r.content.isTombstone <;> simp [publishRecord, htomb]
  | cons p records ih =>
    by_cases hkind : p.kind = r.kind
    · by_cases hkey : p.key = r.key
      · cases htomb : r.content.isTombstone <;> simp [publishRecord, htomb, hkind, hkey]
      · simp [publishRecord, hkind, hkey, ih]
    · have hkey : p.key ≠ r.key := by
        simp only [PolicyRecord.key, ne_eq, Prod.mk.injEq]
        exact fun h => hkind h.2.1
      simp [publishRecord, hkind, hkey, ih]

/-- So it is with the rows of a table. -/
theorem PolicyRow.filter_kind_upsert (p : PolicyRow) (rows : List PolicyRow) :
    (upsert p rows).filter (·.kind = p.kind) = upsert p (rows.filter (·.kind = p.kind)) := by
  induction rows with
  | nil => simp [upsert]
  | cons q rows ih =>
    by_cases hkind : q.kind = p.kind
    · by_cases hkey : q.key = p.key <;> simp [upsert, hkind, hkey, ih]
    · have hkey : q.key ≠ p.key := by
        simp only [PolicyRow.key, ne_eq, Prod.mk.injEq]
        exact fun h => hkind h.2.1
      simp [upsert, hkind, hkey, ih]

theorem PolicyRow.toRecord?_of_kind {row : PolicyRow} {kind : EntityKind}
    (h : row.kind = kind.name) : row.toRecord? = row.record? kind := by
  rw [toRecord?, h, EntityKind.ofName?_name]
  rfl

theorem PolicyRow.mapM_record?_filter_kind (rows : List PolicyRow) (kind : EntityKind) :
    (rows.filter (·.kind = kind.name)).mapM (record? kind) =
      (rows.filter (·.kind = kind.name)).mapM toRecord? := by
  induction rows with
  | nil => rfl
  | cons row rows ih =>
    by_cases hkind : row.kind = kind.name
    · rw [List.filter_cons_of_pos (by simpa using hkind), List.mapM_cons, List.mapM_cons, ih,
        toRecord?_of_kind hkind]
    · rw [List.filter_cons_of_neg (by simpa using hkind)]
      exact ih

/-- A rule that is published stands among the records. -/
theorem mem_publishRecord_self {r : PolicyRecord} (hr : r.content.isTombstone = false)
    (records : List PolicyRecord) : r ∈ publishRecord r records := by
  induction records with
  | nil => simp [publishRecord, hr]
  | cons p records ih =>
    by_cases hkey : p.key = r.key <;> simp [publishRecord, hkey, hr, ih]

/-- What stands after a record is published is that record, or stood before. -/
theorem mem_of_mem_publishRecord {p r : PolicyRecord} {records : List PolicyRecord}
    (h : p ∈ publishRecord r records) : p = r ∨ p ∈ records := by
  induction records with
  | nil => cases htomb : r.content.isTombstone <;> simp_all [publishRecord]
  | cons q records ih =>
    unfold publishRecord at h
    split at h
    · split at h
      · exact .inr (List.mem_cons_of_mem _ h)
      · exact (List.mem_cons.1 h).imp_right (List.mem_cons_of_mem _)
    · rcases List.mem_cons.1 h with rfl | h
      · exact .inr List.mem_cons_self
      · exact (ih h).imp_right (List.mem_cons_of_mem _)

namespace Store

/-- The records of a kind that a store holds, if all of them can be read. -/
def recordsOf? (kind : EntityKind) : Store → Option (List PolicyRecord)
  | .memory s => some (s.records.filter (·.kind = kind))
  | .database d =>
    d.policies.bind fun rows => (rows.filter (·.kind = kind.name)).mapM PolicyRow.toRecord?

variable {s : Store} {records : List PolicyRecord}

/-- **A store answers a query with the records of its kind that the query accepts**, or with nothing
where these cannot be read. -/
theorem find_eq (s : Store) (q : PolicyQuery) :
    s.find q = ((s.recordsOf? q.kind).getD []).filter q.accepts := by
  cases s with
  | memory m =>
    simp only [find, MemoryStore.find, recordsOf?, Option.getD_some, List.filter_filter,
      q.accepts_and_kind]
  | database d =>
    cases hrows : d.policies with
    | none => simp [find, Database.find, Database.recordsOf, recordsOf?, hrows]
    | some rows =>
      simp only [find, Database.find, Database.recordsOf, recordsOf?, hrows, Option.getD_some,
        Option.bind_some, PolicyRow.mapM_record?_filter_kind]

theorem find_eq_filter_of_kind {q : PolicyQuery} (h : s.recordsOf? q.kind = some records) :
    s.find q = records.filter q.accepts := by
  rw [find_eq, h, Option.getD_some]

/-- **A rule is published to the records of its kind.** -/
theorem recordsOf?_publish {r : PolicyRecord} (h : s.recordsOf? r.kind = some records)
    (hr : r.content.isTombstone = false) :
    (s.publish r).recordsOf? r.kind = some (publishRecord r records) := by
  cases s with
  | memory m =>
    obtain rfl : m.records.filter (·.kind = r.kind) = records := Option.some.inj h
    exact congrArg some (filter_kind_publishRecord r m.records)
  | database d =>
    obtain ⟨rows, hrows, hrecords⟩ := Option.bind_eq_some_iff.1 h
    simp only [publish, recordsOf?, Database.publish, hrows, Option.map_some, Option.bind_some, hr,
      Bool.false_eq_true, if_false]
    have hfilter := PolicyRow.filter_kind_upsert (.ofRecord r) rows
    rw [show (PolicyRow.ofRecord r).kind = r.kind.name from rfl] at hfilter
    rw [hfilter]
    exact PolicyRow.mapM_upsert hrecords r hr

@[simp] theorem recordsOf?_remember (kind : EntityKind) (s : Store) (user : String) :
    (s.remember user).recordsOf? kind = s.recordsOf? kind := by
  cases s <;> rfl

end Store
end Moderation

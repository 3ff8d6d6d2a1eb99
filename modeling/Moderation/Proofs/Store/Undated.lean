import Moderation.Moderator.Mutation
import Moderation.Proofs.Policy.Summary
/-!
# Stores apart from when their rules were published

A record keeps when it was published, and nothing that is decided depends on it: stores that differ
in times alone (`Store.undated`) find the same records apart from their times, plan the same for
every mutation (`Mutation.plan_congr`), and go on to differ in times alone when something is
published.
-/

namespace Moderation

/-- A record at no time in particular. -/
def PolicyRecord.undated (r : PolicyRecord) : PolicyRecord := { r with timestamp := 0 }

/-- A row at no time in particular. -/
def PolicyRow.undated (row : PolicyRow) : PolicyRow := { row with timestamp := 0 }

/-- A store whose rules were published at no time in particular. -/
def Store.undated : Store → Store
  | .memory s => .memory { s with records := s.records.map PolicyRecord.undated }
  | .database d => .database { d with policies := d.policies.map (List.map PolicyRow.undated) }

/-! ## What is decided -/

section
variable (found : List PolicyRecord) (list entity : String)

theorem PolicySummary.ofRecords_undated :
    ofRecords (found.map PolicyRecord.undated) =
      ⟨(ofRecords found).deciding.map PolicyRecord.undated⟩ := by
  have hunban : recommendsUnban ∘ PolicyRecord.undated = recommendsUnban := rfl
  have hban : recommendsBan ∘ PolicyRecord.undated = recommendsBan := rfl
  refine PolicySummary.ext ?_
  rw [deciding_ofRecords, deciding_ofRecords, List.find?_map, List.find?_map, hunban, hban]
  cases found.find? recommendsUnban <;> rfl

theorem Decision.existingKey_undated :
    existingKey (found.map PolicyRecord.undated) list entity = existingKey found list entity := by
  unfold existingKey
  rw [List.filter_map, List.getLast?_map, Option.map_map]
  rfl

theorem PolicySummary.isUnban_undated (s : PolicySummary) :
    isUnban ⟨s.deciding.map PolicyRecord.undated⟩ = s.isUnban := by
  obtain ⟨deciding⟩ := s
  cases deciding <;> rfl

theorem Decision.standingUnban_undated :
    standingUnban (found.map PolicyRecord.undated) =
      (standingUnban found).map PolicyRecord.undated := by
  simp only [standingUnban, PolicySummary.ofRecords_undated, PolicySummary.isUnban_undated]
  split <;> rfl

theorem Decision.reportConflict_undated :
    reportConflict (found.map PolicyRecord.undated) entity = reportConflict found entity := by
  simp only [reportConflict, PolicySummary.ofRecords_undated, PolicySummary.isUnban_undated]
  cases (PolicySummary.ofRecords found).deciding <;> rfl

theorem Decision.removal_undated (kind : RemovalKind) :
    removal (found.map PolicyRecord.undated) entity kind = removal found entity kind := by
  simp only [removal, PolicySummary.ofRecords_undated, List.head?_map]
  cases (PolicySummary.ofRecords found).deciding with
  | some r => rfl
  | none => cases found.head? <;> rfl

theorem Mutation.decide_undated (m : Mutation) :
    m.decide (found.map PolicyRecord.undated) = m.decide found := by
  unfold Mutation.decide
  cases m.change with
  | ban =>
    simp only [Decision.ban, Decision.standingUnban_undated, Decision.existingKey_undated]
    cases Decision.standingUnban found <;> rfl
  | reportBan =>
    simp only [Decision.reportBan, Decision.reportConflict_undated, Decision.existingKey_undated]
  | unban =>
    simp only [Decision.unban, Decision.standingUnban_undated, Decision.existingKey_undated]
    cases Decision.standingUnban found <;> rfl
  | remove => simp only [Decision.removal_undated]

end

/-! ## What is found -/

theorem PolicyRow.mapM_undated (kind : EntityKind) (rows : List PolicyRow) :
    (rows.map undated).mapM (record? kind) =
      (rows.mapM (record? kind)).map (List.map PolicyRecord.undated) := by
  have hrow (row : PolicyRow) :
      record? kind row.undated = (record? kind row).map PolicyRecord.undated := by
    unfold record?
    simp only [undated]
    split <;> rfl
  induction rows with
  | nil => rfl
  | cons row rows ih =>
    rw [List.map_cons, List.mapM_cons, List.mapM_cons, hrow, ih]
    cases record? kind row with
    | none => rfl
    | some r => cases rows.mapM (record? kind) <;> rfl

/-- Stores that differ in times find records that differ in times. -/
theorem Store.find_undated (s : Store) (q : PolicyQuery) :
    s.undated.find q = (s.find q).map PolicyRecord.undated := by
  have haccepts : q.accepts ∘ PolicyRecord.undated = q.accepts := rfl
  cases s with
  | memory s =>
    simp only [undated, find, MemoryStore.find]
    rw [List.filter_map, haccepts]
  | database d =>
    have hrecords :
        Database.recordsOf
          { d with policies := d.policies.map (List.map PolicyRow.undated) } q.kind =
          (d.recordsOf q.kind).map PolicyRecord.undated := by
      unfold Database.recordsOf
      cases d.policies with
      | none => rfl
      | some rows =>
        have hkind : (fun row : PolicyRow => decide (row.kind = q.kind.name)) ∘ PolicyRow.undated =
            fun row => decide (row.kind = q.kind.name) := rfl
        simp only [Option.map_some, Option.getD_some]
        rw [List.filter_map, hkind, PolicyRow.mapM_undated]
        cases (rows.filter fun row => decide (row.kind = q.kind.name)).mapM
          (PolicyRow.record? q.kind) <;> rfl
    simp only [undated, find, Database.find, hrecords]
    rw [List.filter_map, haccepts]

/-- **A mutation plans the same with stores that differ in times.** -/
theorem Mutation.plan_congr (m : Mutation) (watched : List String) {s t : Store}
    (h : s.undated = t.undated) :
    m.plan watched s = m.plan watched t := by
  unfold plan
  rw [← m.decide_undated (s.find _), ← m.decide_undated (t.find _), ← s.find_undated,
    ← t.find_undated, h]

/-! ## What is published -/

theorem publishRecord_undated (r : PolicyRecord) (records : List PolicyRecord) :
    (publishRecord r records).map PolicyRecord.undated =
      publishRecord r.undated (records.map PolicyRecord.undated) := by
  have htombstone : r.undated.content.isTombstone = r.content.isTombstone := rfl
  induction records with
  | nil =>
    simp only [publishRecord, htombstone, List.map_nil]
    split <;> rfl
  | cons p records ih =>
    have hkey : p.undated.key = r.undated.key ↔ p.key = r.key := Iff.rfl
    simp only [publishRecord, List.map_cons, htombstone, hkey]
    split
    · split <;> rfl
    · rw [List.map_cons, ih]

theorem PolicyRow.upsert_undated (row : PolicyRow) (rows : List PolicyRow) :
    (upsert row rows).map undated = upsert row.undated (rows.map undated) := by
  induction rows with
  | nil => rfl
  | cons q rows ih =>
    have hkey : q.undated.key = row.undated.key ↔ q.key = row.key := Iff.rfl
    simp only [upsert, List.map_cons, hkey]
    split
    · rfl
    · rw [List.map_cons, ih]

namespace Store

variable {s t : Store}

theorem undated_publish (s : Store) (r : PolicyRecord) :
    (s.publish r).undated = s.undated.publish r.undated := by
  cases s with
  | memory s => simp only [publish, undated, MemoryStore.publish, publishRecord_undated]
  | database d =>
    simp only [publish, undated, Database.publish, Store.database.injEq, Option.map_map]
    have hrow : PolicyRow.ofRecord r.undated = (PolicyRow.ofRecord r).undated := rfl
    have htombstone : r.undated.content.isTombstone = r.content.isTombstone := rfl
    cases d.policies with
    | none => rfl
    | some rows =>
      simp only [Option.map_some, Function.comp_apply, hrow, htombstone]
      split
      · rw [List.filter_map]
        rfl
      · rw [PolicyRow.upsert_undated]

theorem undated_remember (s : Store) (user : String) :
    (s.remember user).undated = s.undated.remember user := by
  cases s <;> rfl

theorem reverse_undated (s : Store) (digest : Digest) :
    s.undated.reverse digest = s.reverse digest := by
  cases s <;> rfl

end Store

/-- Stores that differ in times still do when the same publication is recorded, be it at different
times. -/
theorem Mutation.recordIn_congr (m : Mutation) (p : Publication) (sender : String)
    (timestamp timestamp' : Int64)
    {s t : Store} (h : s.undated = t.undated) :
    (m.recordIn p sender timestamp s).undated = (m.recordIn p sender timestamp' t).undated := by
  have hpublish :
      (s.publish (m.record p sender timestamp)).undated =
        (t.publish (m.record p sender timestamp')).undated := by
    rw [Store.undated_publish, Store.undated_publish, h]
    rfl
  unfold Mutation.recordIn
  split
  · rw [Store.undated_remember, Store.undated_remember, hpublish]
  · exact hpublish

end Moderation

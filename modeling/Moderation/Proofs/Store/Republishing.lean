import Moderation.Proofs.Store.Publishing
import Moderation.Store.Basic
/-!
# Publishing again

A rule that is published takes the place of the one under its key.  If that was the last one of some
sort, and the rule is of that sort too, it is the last one again, and the others of the sort stand
before it as they did (`filter_publishRecord_last`).

To publish a rule twice under one key is to publish the later one alone (`Store.publish_publish`),
and to remember a user twice is to remember it once (`Store.remember_remember`), in memory and in a
database.
-/

namespace Moderation

/-! ## Records -/

section
variable {r r' : PolicyRecord} {records : List PolicyRecord}

/-- **A rule that takes the place of the last one of a sort is the last one then.**  If there was
none of the sort it is the only one. -/
theorem filter_publishRecord_last {sort : PolicyRecord → Bool} (hk : Keyed records)
    (hrule : r.content.isTombstone = false) (hsort : sort r = true)
    (hlast : ∀ old, (records.filter sort).getLast? = some old → old.key = r.key) :
    (publishRecord r records).filter sort = (records.filter sort).dropLast ++ [r] := by
  induction records with
  | nil => simp [publishRecord, hrule, hsort]
  | cons p records ih =>
    -- If others of the sort come after the first record, the last one is among them.
    have hrest (old : PolicyRecord) (hold : (records.filter sort).getLast? = some old) :
        old.key = r.key := by
      refine hlast old ?_
      rw [List.filter_cons]
      split
      · rw [List.getLast?_cons, hold, Option.getD_some]
      · exact hold
    by_cases hkey : p.key = r.key
    · have hnone : records.filter sort = [] := by
        cases hfilter : (records.filter sort).getLast? with
        | none => exact List.getLast?_eq_none_iff.1 hfilter
        | some old =>
          have hold := (List.mem_filter.1 (List.mem_of_getLast? hfilter)).1
          exact absurd ((hrest old hfilter).trans hkey.symm) (hk.key_ne hold)
      rw [publishRecord, if_pos hkey, hrule, if_neg Bool.false_ne_true,
        List.filter_cons_of_pos hsort, List.filter_cons, hnone]
      split <;> rfl
    · rw [publishRecord, if_neg hkey]
      cases hp : sort p with
      | false =>
        have hnot : ¬sort p = true := by simp [hp]
        rw [List.filter_cons_of_neg hnot, List.filter_cons_of_neg hnot, ih hk.tail hrest]
      | true =>
        rw [List.filter_cons_of_pos hp, List.filter_cons_of_pos hp, ih hk.tail hrest]
        cases hfilter : records.filter sort with
        | nil =>
          refine absurd (hlast p ?_) hkey
          rw [List.filter_cons_of_pos hp, hfilter]
          rfl
        | cons q rest => rfl

/-- What is published under the key of a rule that was just published takes its place. -/
theorem publishRecord_publishRecord (hkey : r'.key = r.key)
    (hrule : r.content.isTombstone = false) :
    publishRecord r' (publishRecord r records) = publishRecord r' records := by
  induction records with
  | nil => simp [publishRecord, hrule, hkey]
  | cons p records ih =>
    by_cases hp : p.key = r.key
    · simp [publishRecord, hp, hkey, hrule]
    · have hp' : p.key ≠ r'.key := hkey ▸ hp
      simp only [publishRecord, if_neg hp, if_neg hp', ih]

end

/-! ## Stores -/

theorem PolicyRow.upsert_upsert {row row' : PolicyRow} (hkey : row'.key = row.key)
    (rows : List PolicyRow) :
    upsert row' (upsert row rows) = upsert row' rows := by
  induction rows with
  | nil => simp [upsert, hkey]
  | cons q rows ih =>
    by_cases hq : q.key = row.key
    · simp [upsert, hq, hkey]
    · have hq' : q.key ≠ row'.key := hkey ▸ hq
      simp only [upsert, if_neg hq, if_neg hq', ih]

namespace Store

/-- **To publish a rule twice under one key is to publish the later one.** -/
theorem publish_publish {r r' : PolicyRecord} (hkey : r'.key = r.key)
    (hrule : r.content.isTombstone = false) (hrule' : r'.content.isTombstone = false) (s : Store) :
    (s.publish r).publish r' = s.publish r' := by
  cases s with
  | memory s =>
    simp only [publish, MemoryStore.publish, publishRecord_publishRecord hkey hrule]
  | database d =>
    have hrow : (PolicyRow.ofRecord r').key = (PolicyRow.ofRecord r).key := by
      simp only [PolicyRecord.key, Prod.mk.injEq] at hkey
      simp only [PolicyRow.ofRecord, PolicyRow.key, hkey]
    simp only [publish, Database.publish, hrule, hrule', Bool.false_eq_true, if_false,
      Option.map_map, Function.comp_def, PolicyRow.upsert_upsert hrow]

/-- **To remember a user twice is to remember it once.** -/
theorem remember_remember (s : Store) (user : String) :
    (s.remember user).remember user = s.remember user := by
  cases s with
  | memory s =>
    simp only [remember, MemoryStore.remember]
    rw [List.filter_cons_of_neg (by simp), List.filter_filter]
    simp
  | database d =>
    simp only [remember, Database.remember, Option.map_map, Function.comp_def, List.filter_append,
      List.filter_filter]
    simp

end Store
end Moderation

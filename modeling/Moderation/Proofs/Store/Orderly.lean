import Moderation.Proofs.Store.Publishing
/-!
# Orderly records

Rules that are taken from lists can say anything and stand under any key, so little can be said of
the records of a store that takes them: no two stand under one key, none is a tombstone and none has
an empty key.  Such records are **orderly** (`Orderly`), and publishing keeps them so.

To publish a record takes away the one under its key and adds itself, unless it is a tombstone.
That is also how many records of any sort there are afterwards (`countP_publishRecord`).
-/

namespace Moderation

/-- No two records stand under one key, none is a tombstone and none has an empty state key. -/
structure Orderly (records : List PolicyRecord) : Prop where
  keyed : Keyed records
  rule : ∀ r ∈ records, r.content.isTombstone = false
  key_ne_empty : ∀ r ∈ records, r.stateKey ≠ ""

theorem orderly_nil : Orderly [] where
  keyed := List.nodup_nil
  rule := by simp
  key_ne_empty := by simp

variable {records : List PolicyRecord}

/-- **Records stay orderly** when one with a key is published. -/
theorem Orderly.publish (h : Orderly records) {r : PolicyRecord} (hr : r.stateKey ≠ "") :
    Orderly (publishRecord r records) where
  keyed := keyed_publishRecord r h.keyed
  rule := by
    intro p hp
    rcases (mem_publishRecord h.keyed).1 hp with ⟨hp, -⟩ | ⟨rfl, hrule⟩
    · exact h.rule p hp
    · exact hrule
  key_ne_empty := by
    intro p hp
    rcases (mem_publishRecord h.keyed).1 hp with ⟨hp, -⟩ | ⟨rfl, -⟩
    · exact h.key_ne_empty p hp
    · exact hr

/-- A record stands alone under its key. -/
theorem Keyed.filter_key (h : Keyed records) {old : PolicyRecord} (hold : old ∈ records) :
    records.filter (·.key = old.key) = [old] := by
  induction records with
  | nil => cases hold
  | cons p records ih =>
    rcases List.mem_cons.1 hold with rfl | hold
    · have hrest : records.filter (·.key = old.key) = [] :=
        List.filter_eq_nil_iff.2 fun q hq => by simpa using h.key_ne hq
      rw [List.filter_cons_of_pos (by simp), hrest]
    · rw [List.filter_cons_of_neg (by simpa using (h.key_ne hold).symm), ih h.tail hold]

/-- How many records of a sort there are when one is published: the record under its key no longer
counts, and the new one does unless it is a tombstone. -/
theorem countP_publishRecord (h : Keyed records) (r : PolicyRecord) (f : PolicyRecord → Bool) :
    (publishRecord r records).countP f + (records.filter (·.key = r.key)).countP f =
      records.countP f + if r.content.isTombstone then 0 else if f r then 1 else 0 := by
  induction records with
  | nil =>
    cases htomb : r.content.isTombstone <;> simp [publishRecord, htomb, List.countP_singleton]
  | cons p records ih =>
    by_cases hkey : p.key = r.key
    · -- No record after the first has the key.
      have hrest : records.filter (·.key = r.key) = [] :=
        List.filter_eq_nil_iff.2 fun q hq => by simpa [← hkey] using h.key_ne hq
      rw [publishRecord, if_pos hkey, List.filter_cons_of_pos (by simpa using hkey), hrest]
      cases r.content.isTombstone
      · simp only [Bool.false_eq_true, if_false, List.countP_cons, List.countP_nil]
        omega
      · simp only [if_true, List.countP_cons, List.countP_nil]
        omega
    · have hrest := ih h.tail
      rw [publishRecord, if_neg hkey, List.filter_cons_of_neg (by simpa using hkey),
        List.countP_cons, List.countP_cons]
      omega

/-- A record that takes the place of one of its sort, or a tombstone that takes one away. -/
theorem countP_publishRecord_over (h : Keyed records) {r old : PolicyRecord} (hold : old ∈ records)
    (hkey : old.key = r.key) {f : PolicyRecord → Bool} (hf : f old = true) :
    (publishRecord r records).countP f + 1 =
      records.countP f + if r.content.isTombstone then 0 else if f r then 1 else 0 := by
  rw [← countP_publishRecord h r f, ← hkey, h.filter_key hold, List.countP_singleton, if_pos hf]

/-- A rule of a sort of which there were none. -/
theorem countP_publishRecord_first (h : Keyed records) {r : PolicyRecord}
    (hrule : r.content.isTombstone = false) {f : PolicyRecord → Bool} (hf : f r = true)
    (hnone : ∀ p ∈ records, f p = false) : (publishRecord r records).countP f = 1 := by
  have hcount := countP_publishRecord h r f
  have hzero : records.countP f = 0 := List.countP_eq_zero.2 fun p hp => by simp [hnone p hp]
  have hunder : (records.filter (·.key = r.key)).countP f = 0 :=
    List.countP_eq_zero.2 fun p hp => by simp [hnone p (List.mem_of_mem_filter hp)]
  simpa [hzero, hunder, hrule, hf] using hcount

end Moderation

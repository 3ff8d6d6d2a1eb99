import Mathlib.Data.List.Nodup
import Moderation.Store.Memory
/-!
# What publishing does to a list of records

No list of records holds two under one key (`Keyed`), and publishing keeps it so.  What is published
takes the place of whatever stood under its key and leaves all else alone: `mem_publishRecord` says
so of the members.
-/

namespace Moderation

/-- No two records stand under one key. -/
def Keyed (records : List PolicyRecord) : Prop := (records.map PolicyRecord.key).Nodup

theorem Keyed.nodup {records : List PolicyRecord} (h : Keyed records) : records.Nodup := h.of_map

theorem Keyed.tail {p : PolicyRecord} {records : List PolicyRecord} (h : Keyed (p :: records)) :
    Keyed records :=
  (List.nodup_cons.1 h).2

/-- The records after the first have other keys. -/
theorem Keyed.key_ne {p q : PolicyRecord} {records : List PolicyRecord} (h : Keyed (p :: records))
    (hq : q ∈ records) :
    q.key ≠ p.key :=
  fun he => (List.nodup_cons.1 h).1 (he ▸ List.mem_map_of_mem hq)

/-- The records that stand after one is published: the others, and that one unless it is a
tombstone. -/
theorem mem_publishRecord {r p : PolicyRecord} {records : List PolicyRecord} (hk : Keyed records) :
    p ∈ publishRecord r records ↔ (p ∈ records ∧ p.key ≠ r.key) ∨
      (p = r ∧ r.content.isTombstone = false) := by
  induction records with
  | nil =>
    cases ht : r.content.isTombstone <;> simp [publishRecord, ht]
  | cons q records ih =>
    unfold publishRecord
    split
    · next hkey =>
      have hrest (hp : p ∈ records) : p.key ≠ r.key := hkey ▸ hk.key_ne hp
      have hold : p ∈ q :: records ∧ p.key ≠ r.key ↔ p ∈ records := by
        constructor
        · rintro ⟨hp, hne⟩
          rcases List.mem_cons.1 hp with rfl | hp
          · exact absurd hkey hne
          · exact hp
        · exact fun hp => ⟨List.mem_cons_of_mem q hp, hrest hp⟩
      rw [hold]
      cases ht : r.content.isTombstone with
      | true => simp
      | false => simp [or_comm]
    · next hkey =>
      rw [List.mem_cons, ih hk.tail, List.mem_cons]
      constructor
      · rintro (rfl | ⟨hp, hne⟩ | h)
        · exact .inl ⟨.inl rfl, hkey⟩
        · exact .inl ⟨.inr hp, hne⟩
        · exact .inr h
      · rintro (⟨rfl | hp, hne⟩ | h)
        · exact .inl rfl
        · exact .inr (.inl ⟨hp, hne⟩)
        · exact .inr (.inr h)

/-- A tombstone takes nothing away where nothing stands under its key. -/
theorem publishRecord_tombstone {r : PolicyRecord} {records : List PolicyRecord}
    (hr : r.content.isTombstone = true)
    (h : ∀ p ∈ records, p.key ≠ r.key) : publishRecord r records = records := by
  induction records with
  | nil => simp [publishRecord, hr]
  | cons p records ih =>
    rw [publishRecord, if_neg (h p List.mem_cons_self),
      ih fun q hq => h q (List.mem_cons_of_mem p hq)]

/-- **A tombstone takes away what stands under its key** and leaves the others in their order. -/
theorem publishRecord_eq_filter {r : PolicyRecord} {records : List PolicyRecord}
    (hk : Keyed records) (hr : r.content.isTombstone = true) :
    publishRecord r records = records.filter (·.key ≠ r.key) := by
  induction records with
  | nil => simp [publishRecord, hr]
  | cons p records ih =>
    by_cases hkey : p.key = r.key
    · -- The key stood on this record alone, so the others stay.
      have hrest : records.filter (·.key ≠ r.key) = records :=
        List.filter_eq_self.2 fun q hq => by simpa [← hkey] using hk.key_ne hq
      rw [publishRecord, if_pos hkey, if_pos hr, List.filter_cons_of_neg (by simpa using hkey),
        hrest]
    · rw [publishRecord, if_neg hkey, List.filter_cons_of_pos (by simpa using hkey), ih hk.tail]

theorem keyed_publishRecord (r : PolicyRecord) {records : List PolicyRecord} (hk : Keyed records) :
    Keyed (publishRecord r records) := by
  induction records with
  | nil =>
    cases ht : r.content.isTombstone <;> simp [publishRecord, ht, Keyed]
  | cons q records ih =>
    unfold publishRecord
    split
    · next hkey =>
      cases ht : r.content.isTombstone with
      | true => exact hk.tail
      | false =>
        refine List.nodup_cons.2 ⟨fun hmem => ?_, hk.tail⟩
        obtain ⟨p, hp, he⟩ := List.mem_map.1 hmem
        exact hk.key_ne hp (he.trans hkey.symm)
    · next hkey =>
      refine List.nodup_cons.2 ⟨fun hmem => ?_, ih hk.tail⟩
      obtain ⟨p, hp, he⟩ := List.mem_map.1 hmem
      rcases (mem_publishRecord hk.tail).1 hp with ⟨hp, -⟩ | ⟨rfl, -⟩
      · exact hk.key_ne hp he
      · exact hkey he.symm

end Moderation

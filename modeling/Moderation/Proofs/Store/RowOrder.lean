import Mathlib.Data.List.Nodup
import Moderation.Store.Database
/-!
# Rows in the order of their numbers

In a table of a database every row has a number: a new row gets the one after the largest, and a
row whose columns are updated keeps its own.  A query reads the rows in the order of their
numbers, wherever they lie.  The rows that it reads are those that a database keeps as a list: an
update leaves a row in its place, a new row is the last, and so what is published changes both in
the same way (`RowTable.ordered_publish`).
-/

namespace Moderation

/-- A table of rules whose rows have numbers. -/
structure RowTable where
  rows : List (Nat × PolicyRow) := []

namespace RowTable

/-- The rows with their numbers, in the order of these. -/
def sorted (t : RowTable) : List (Nat × PolicyRow) := t.rows.mergeSort fun a b => a.1 ≤ b.1

/-- The rows in the order of their numbers. -/
def ordered (t : RowTable) : List PolicyRow := t.sorted.map (·.2)

/-- The number of a new row: one more than the largest there is. -/
def nextNumber (t : RowTable) : Nat := (t.rows.map (·.1)).foldr max 0 + 1

/-- A numbered row after the row under a key was updated. -/
def update (p : PolicyRow) (e : Nat × PolicyRow) : Nat × PolicyRow :=
  (e.1, if e.2.key = p.key then p else e.2)

/-- Inserts a row; on a conflict of keys the row that is there is updated. -/
def upsert (t : RowTable) (p : PolicyRow) : RowTable where
  rows :=
    if ∃ e ∈ t.rows, e.2.key = p.key then t.rows.map (update p) else (t.nextNumber, p) :: t.rows

/-- Deletes the row under a key. -/
def delete (t : RowTable) (key : String × String × String) : RowTable where
  rows := t.rows.filter (·.2.key ≠ key)

/-- Publishes a record. -/
def publish (t : RowTable) (r : PolicyRecord) : RowTable :=
  let row := PolicyRow.ofRecord r
  if r.content.isTombstone then t.delete row.key else t.upsert row

/-- A table in which no two rows have one number, and no two one key. -/
structure Unique (t : RowTable) : Prop where
  numbers : (t.rows.map (·.1)).Nodup
  keys : (t.rows.map (·.2.key)).Nodup

variable {t : RowTable}

theorem perm_sorted (t : RowTable) : t.sorted.Perm t.rows := List.mergeSort_perm _ _

theorem pairwise_sorted (t : RowTable) : t.sorted.Pairwise fun a b => a.1 ≤ b.1 := by
  have h := @List.pairwise_mergeSort _ (fun a b : Nat × PolicyRow => decide (a.1 ≤ b.1))
    (fun a b c hab hbc => by simp at *; omega) (fun a b => by simp; omega) t.rows
  exact h.imp fun hab => by simpa using hab

/-- **The order of the rows is the only one in which their numbers do not fall.** -/
theorem sorted_eq (h : (t.rows.map (·.1)).Nodup) {entries : List (Nat × PolicyRow)}
    (hp : entries.Perm t.rows) (hle : entries.Pairwise fun a b => a.1 ≤ b.1) :
    t.sorted = entries := by
  refine List.Perm.eq_of_pairwise (fun a b ha hb hab hba => ?_) t.pairwise_sorted hle
    (t.perm_sorted.trans hp.symm)
  exact List.inj_on_of_nodup_map h (t.perm_sorted.subset ha) (hp.subset hb)
    (Nat.le_antisymm hab hba)

theorem number_lt {e : Nat × PolicyRow} (he : e ∈ t.rows) : e.1 < t.nextNumber := by
  have hle : ∀ numbers : List Nat, ∀ n ∈ numbers, n ≤ numbers.foldr max 0 := by
    intro numbers n hn
    induction numbers with
    | nil => cases hn
    | cons m rest ih =>
      rw [List.foldr_cons]
      rcases List.mem_cons.1 hn with rfl | hn
      · exact Nat.le_max_left _ _
      · exact Nat.le_trans (ih hn) (Nat.le_max_right _ _)
  exact Nat.lt_succ_of_le (hle _ e.1 (List.mem_map_of_mem he))

/-! ## Statements keep numbers and keys apart -/

theorem Unique.delete (h : Unique t) (key : String × String × String) : Unique (t.delete key) where
  numbers := (List.filter_sublist.map _).nodup h.numbers
  keys := (List.filter_sublist.map _).nodup h.keys

theorem map_number_update (p : PolicyRow) (entries : List (Nat × PolicyRow)) :
    (entries.map (update p)).map (·.1) = entries.map (·.1) := by
  rw [List.map_map]
  rfl

theorem map_key_update (p : PolicyRow) (entries : List (Nat × PolicyRow)) :
    (entries.map (update p)).map (·.2.key) = entries.map (·.2.key) := by
  rw [List.map_map]
  refine List.map_congr_left fun e _ => ?_
  simp only [Function.comp_apply, update]
  split
  · next h => exact h.symm
  · rfl

theorem Unique.upsert (h : Unique t) (p : PolicyRow) : Unique (t.upsert p) := by
  unfold RowTable.upsert
  split
  · exact ⟨(map_number_update p t.rows).symm ▸ h.numbers, (map_key_update p t.rows).symm ▸ h.keys⟩
  · next hnew =>
    refine ⟨List.nodup_cons.2 ⟨fun hmem => ?_, h.numbers⟩,
      List.nodup_cons.2 ⟨fun hmem => ?_, h.keys⟩⟩
    · obtain ⟨e, he, hnumber⟩ := List.mem_map.1 hmem
      exact absurd hnumber (Nat.ne_of_lt (number_lt he))
    · obtain ⟨e, he, hkey⟩ := List.mem_map.1 hmem
      exact hnew ⟨e, he, hkey⟩

theorem Unique.publish (h : Unique t) (r : PolicyRecord) : Unique (t.publish r) := by
  unfold RowTable.publish
  split
  · exact h.delete _
  · exact h.upsert _

/-! ## What statements do to the order -/

theorem ordered_delete (h : Unique t) (key : String × String × String) :
    (t.delete key).ordered = t.ordered.filter (·.key ≠ key) := by
  have hsorted : (t.delete key).sorted = t.sorted.filter (·.2.key ≠ key) :=
    sorted_eq (h.delete key).numbers (t.perm_sorted.filter _) (t.pairwise_sorted.filter _)
  rw [ordered, hsorted, ordered, List.filter_map]
  rfl

theorem ordered_insert (h : Unique t) {p : PolicyRow} (hnew : ¬∃ e ∈ t.rows, e.2.key = p.key) :
    (t.upsert p).ordered = t.ordered ++ [p] := by
  have hsorted : (t.upsert p).sorted = t.sorted ++ [(t.nextNumber, p)] := by
    refine sorted_eq (h.upsert p).numbers ?_ ?_
    · rw [RowTable.upsert, if_neg hnew]
      exact List.perm_append_comm.trans (t.perm_sorted.cons _)
    · refine List.pairwise_append.2 ⟨t.pairwise_sorted, List.pairwise_singleton _ _, ?_⟩
      intro e he f hf
      obtain rfl := List.mem_singleton.1 hf
      exact Nat.le_of_lt (number_lt (t.perm_sorted.subset he))
  rw [ordered, hsorted, List.map_append]
  rfl

theorem ordered_update (h : Unique t) {p : PolicyRow} (hold : ∃ e ∈ t.rows, e.2.key = p.key) :
    (t.upsert p).ordered = t.ordered.map fun q => if q.key = p.key then p else q := by
  have hsorted : (t.upsert p).sorted = t.sorted.map (update p) := by
    refine sorted_eq (h.upsert p).numbers ?_ (List.pairwise_map.2 t.pairwise_sorted)
    rw [RowTable.upsert, if_pos hold]
    exact t.perm_sorted.map _
  rw [ordered, hsorted, ordered, List.map_map, List.map_map]
  rfl

end RowTable

namespace PolicyRow

theorem upsert_of_new {p : PolicyRow} {rows : List PolicyRow} (h : ∀ q ∈ rows, q.key ≠ p.key) :
    upsert p rows = rows ++ [p] := by
  induction rows with
  | nil => rfl
  | cons q rest ih =>
    rw [upsert, if_neg (h q List.mem_cons_self), ih fun q hq => h q (List.mem_cons_of_mem _ hq),
      List.cons_append]

theorem upsert_of_old {p : PolicyRow} {rows : List PolicyRow} (hk : (rows.map key).Nodup)
    (h : ∃ q ∈ rows, q.key = p.key) :
    upsert p rows = rows.map fun q => if q.key = p.key then p else q := by
  induction rows with
  | nil => simp at h
  | cons q rest ih =>
    rw [List.map_cons, List.nodup_cons] at hk
    rw [upsert, List.map_cons]
    split
    · next hq =>
      -- No other row has the key, so the others stay as they are.
      have hrest : ∀ e ∈ rest, e.key ≠ p.key := fun e he hep =>
        hk.1 (hq.trans hep.symm ▸ List.mem_map_of_mem he)
      rw [List.map_congr_left fun e he => if_neg (hrest e he), List.map_id']
    · next hq =>
      obtain ⟨e, he, hep⟩ := h
      rcases List.mem_cons.1 he with rfl | he
      · exact absurd hep hq
      · rw [ih hk.2 ⟨e, he, hep⟩]

end PolicyRow

namespace RowTable

variable {t : RowTable}

theorem perm_ordered (t : RowTable) : t.ordered.Perm (t.rows.map (·.2)) := t.perm_sorted.map _

theorem Unique.keys_ordered (h : Unique t) : (t.ordered.map PolicyRow.key).Nodup := by
  have hp := t.perm_ordered.map PolicyRow.key
  rw [List.map_map] at hp
  exact hp.nodup_iff.2 h.keys

theorem ordered_upsert (h : Unique t) (p : PolicyRow) :
    (t.upsert p).ordered = PolicyRow.upsert p t.ordered := by
  have hmem : (∃ q ∈ t.ordered, q.key = p.key) ↔ ∃ e ∈ t.rows, e.2.key = p.key := by
    simp only [t.perm_ordered.mem_iff, List.mem_map]
    constructor
    · rintro ⟨_, ⟨e, he, rfl⟩, hkey⟩
      exact ⟨e, he, hkey⟩
    · rintro ⟨e, he, hkey⟩
      exact ⟨_, ⟨e, he, rfl⟩, hkey⟩
  by_cases hold : ∃ e ∈ t.rows, e.2.key = p.key
  · rw [ordered_update h hold, PolicyRow.upsert_of_old h.keys_ordered (hmem.2 hold)]
  · rw [ordered_insert h hold, PolicyRow.upsert_of_new]
    exact fun q hq hkey => hold (hmem.1 ⟨q, hq, hkey⟩)

/-- **What is published changes the rows in their order as it changes the rows of a database.** -/
theorem ordered_publish (h : Unique t) {d : Database} (hd : d.policies = some t.ordered)
    (r : PolicyRecord) : (d.publish r).policies = some (t.publish r).ordered := by
  simp only [Database.publish, hd, Option.map_some, publish]
  split
  · rw [ordered_delete h]
  · rw [ordered_upsert h]

end RowTable
end Moderation

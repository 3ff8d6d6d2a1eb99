import Mathlib.Data.List.Nodup
/-!
# Looking up under keys that differ

Where no key stands twice, what a look under a key finds is all that stands under it.
-/

namespace Moderation

variable {α β : Type} [DecidableEq β] {f : α → β} {as : List α} {a : α}

/-- Where keys differ, each element is found by its own. -/
theorem find?_of_nodup (hn : (as.map f).Nodup) (ha : a ∈ as) :
    as.find? (f · = f a) = some a := by
  cases hfind : as.find? (f · = f a) with
  | none => exact absurd (List.find?_eq_none.1 hfind a ha) (by simp)
  | some b =>
    have hkey : f b = f a := by simpa using List.find?_some hfind
    rw [List.inj_on_of_nodup_map hn (List.mem_of_find?_eq_some hfind) ha hkey]

/-- Where keys differ, what stands under a key is what a look under it finds. -/
theorem lookup_of_nodup {entries : List (β × α)} {key : β} (hn : (entries.map (·.1)).Nodup)
    (h : (key, a) ∈ entries) : entries.lookup key = some a := by
  induction entries with
  | nil => cases h
  | cons e rest ih =>
    rw [List.map_cons, List.nodup_cons] at hn
    rcases List.mem_cons.1 h with rfl | h
    · exact List.lookup_cons_self
    · have hne : key ≠ e.1 := fun he => hn.1 (he ▸ List.mem_map_of_mem h)
      rw [List.lookup_cons, beq_eq_false_iff_ne.2 hne]
      exact ih hn.2 h

omit [DecidableEq β] in
/-- Keys differ with one more at the end, if none before is like it. -/
theorem nodup_map_concat (h : (as.map f).Nodup) (ha : ∀ b ∈ as, f b ≠ f a) :
    ((as ++ [a]).map f).Nodup := by
  rw [List.map_append, List.map_singleton, ← List.concat_eq_append, List.nodup_concat]
  refine ⟨fun hmem => ?_, h⟩
  obtain ⟨b, hb, heq⟩ := List.mem_map.1 hmem
  exact ha b hb heq

end Moderation

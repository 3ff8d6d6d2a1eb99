import Moderation.Moderator.Lock
import Moderation.Proofs.Lookup
/-!
# One lock for a key

Whoever holds a lock for a key or waits for one uses the lock that the table has for that key, and
so nobody is given a key that somebody else holds (`Locks.one_lock_for_a_key`).

The danger is in the taking out.  A lock goes on existing for those who use it when it is no longer
in the table, and whoever asks then is given another that does not exclude them.  `Locks.Sound` is
the invariant that keeps this from happening: what is used is in the table under its own key, and
what is taken out is used by nobody.
-/

namespace Moderation

namespace LockUse

/-- A use that is granted its lock, if it is the one with a ticket. -/
def granted (ticket : Nat) (u : LockUse) : LockUse :=
  if u.ticket = ticket then { u with holds := true } else u

variable (n : Nat) (u : LockUse)

@[simp] theorem ticket_granted : (u.granted n).ticket = u.ticket := by
  unfold granted
  split <;> rfl

@[simp] theorem key_granted : (u.granted n).key = u.key := by
  unfold granted
  split <;> rfl

@[simp] theorem lock_granted : (u.granted n).lock = u.lock := by
  unfold granted
  split <;> rfl

theorem holds_granted : (u.granted n).holds = true ↔ u.ticket = n ∨ u.holds = true := by
  unfold granted
  split <;> simp [*]

end LockUse

namespace Locks

variable {s s' : Locks} {u v : LockUse} {key : LockKey} {lock ticket : Nat}

/-- Every use is of the lock that the table has for its key, and no lock is held twice. -/
structure Sound (s : Locks) : Prop where
  keys : (s.table.map (·.1)).Nodup
  locks : (s.table.map (·.2)).Nodup
  made : ∀ e ∈ s.table, e.2 < s.tickets
  listed : ∀ u ∈ s.uses, (u.key, u.lock) ∈ s.table
  tickets : (s.uses.map (·.ticket)).Nodup
  given : ∀ u ∈ s.uses, u.ticket < s.tickets
  alone : ∀ u ∈ s.uses, ∀ v ∈ s.uses, u.holds = true → v.holds = true → u.lock = v.lock → u = v

/-! ## The table -/

theorem mem_usedTable {e : LockKey × Nat} :
    e ∈ s.usedTable ↔ e ∈ s.table ∧ ∃ u ∈ s.uses, u.lock = e.2 := by
  simp [usedTable, isUsed]

/-- The use that asking adds. -/
def newcomer (s : Locks) (key : LockKey) (lock : Nat) : LockUse :=
  { ticket := s.tickets, key, lock }

/-- What asking leads to: the newcomer joins those who use the lock for its key, or is the first to
use a new one. -/
inductive Asked (s : Locks) (key : LockKey) : Locks → Prop
  | join (lock : Nat) (h : (key, lock) ∈ s.usedTable) :
    Asked s key ⟨s.usedTable, s.uses ++ [s.newcomer key lock], s.tickets + 1⟩
  | make (h : ∀ e ∈ s.usedTable, e.1 ≠ key) :
    Asked s key
      ⟨s.usedTable ++ [(key, s.tickets)], s.uses ++ [s.newcomer key s.tickets], s.tickets + 1⟩

theorem asked (hn : (s.table.map (·.1)).Nodup) (key : LockKey) : Asked s key (s.ask key) := by
  by_cases h : key ∈ s.usedTable.map (·.1)
  · obtain ⟨e, he, rfl⟩ := List.mem_map.1 h
    have hfind : s.usedTable.lookup e.1 = some e.2 :=
      lookup_of_nodup (hn.sublist (List.filter_sublist.map _)) he
    simp only [ask, hfind]
    exact .join e.2 he
  · have hnew : ∀ e ∈ s.usedTable, e.1 ≠ key := fun e he heq => h (heq ▸ List.mem_map_of_mem he)
    have hfind : s.usedTable.lookup key = none :=
      List.lookup_eq_none_iff.2 fun e he => bne_iff_ne.2 (hnew e he).symm
    simp only [ask, hfind]
    exact .make hnew

/-- A grant is for somebody who has asked for a lock that nobody holds. -/
theorem exists_granted (h : s.grant ticket = some s') :
    ∃ u ∈ s.uses, u.ticket = ticket ∧ ¬s.isHeld u.lock = true ∧
      s' = { s with uses := s.uses.map (LockUse.granted ticket) } := by
  unfold grant at h
  split at h
  · cases h
  next u hfind =>
  split at h
  · cases h
  next hfree =>
  rw [Bool.or_eq_true_iff, not_or] at hfree
  exact ⟨u, List.mem_of_find?_eq_some hfind, by simpa using List.find?_some hfind, hfree.2,
    (Option.some.inj h).symm⟩

namespace Sound

/-! ## What a step keeps -/

theorem start : Sound {} := by
  constructor <;> simp

/-- Taking out what nobody uses takes nothing from those who use a lock. -/
theorem listed_used (hs : s.Sound) (hu : u ∈ s.uses) : (u.key, u.lock) ∈ s.usedTable :=
  mem_usedTable.2 ⟨hs.listed u hu, u, hu, rfl⟩

/-- The newcomer has a ticket that nobody else has, and holds nothing yet. -/
theorem newcomer_uses (hs : s.Sound) (key : LockKey) (lock : Nat) :
    ((s.uses ++ [s.newcomer key lock]).map (·.ticket)).Nodup ∧
      (∀ u ∈ s.uses ++ [s.newcomer key lock], u.ticket < s.tickets + 1) ∧
      ∀ u ∈ s.uses ++ [s.newcomer key lock], u.holds = true → u ∈ s.uses := by
  refine ⟨nodup_map_concat hs.tickets fun u hu => Nat.ne_of_lt (hs.given u hu), ?_, ?_⟩
  · intro u hu
    rcases List.mem_append.1 hu with hu | hu
    · exact Nat.lt_succ_of_lt (hs.given u hu)
    · rw [List.mem_singleton.1 hu]
      exact Nat.lt_succ_self _
  · intro u hu hholds
    rcases List.mem_append.1 hu with hu | hu
    · exact hu
    · rw [List.mem_singleton.1 hu] at hholds
      cases hholds

theorem ask (hs : s.Sound) (key : LockKey) : (s.ask key).Sound := by
  have hkeys : (s.usedTable.map (·.1)).Nodup := hs.keys.sublist (List.filter_sublist.map _)
  have hlocks : (s.usedTable.map (·.2)).Nodup := hs.locks.sublist (List.filter_sublist.map _)
  have hmade : ∀ e ∈ s.usedTable, e.2 < s.tickets := fun e he => hs.made e (mem_usedTable.1 he).1
  have hasked := asked hs.keys key
  generalize s.ask key = s' at hasked ⊢
  cases hasked with
  | join lock h =>
    obtain ⟨htickets, hgiven, hold⟩ := hs.newcomer_uses key lock
    refine ⟨hkeys, hlocks, fun e he => Nat.lt_succ_of_lt (hmade e he), ?_, htickets, hgiven,
      fun u hu v hv hu' hv' => hs.alone u (hold u hu hu') v (hold v hv hv') hu' hv'⟩
    intro u hu
    rcases List.mem_append.1 hu with hu | hu
    · exact hs.listed_used hu
    · rw [List.mem_singleton.1 hu]
      exact h
  | make h =>
    obtain ⟨htickets, hgiven, hold⟩ := hs.newcomer_uses key s.tickets
    -- No lock in the table was made for the ticket of the newcomer.
    refine ⟨nodup_map_concat hkeys h, nodup_map_concat hlocks fun e he => Nat.ne_of_lt (hmade e he),
      ?_, ?_, htickets, hgiven,
      fun u hu v hv hu' hv' => hs.alone u (hold u hu hu') v (hold v hv hv') hu' hv'⟩
    · intro e he
      rcases List.mem_append.1 he with he | he
      · exact Nat.lt_succ_of_lt (hmade e he)
      · rw [List.mem_singleton.1 he]
        exact Nat.lt_succ_self _
    · intro u hu
      rcases List.mem_append.1 hu with hu | hu
      · exact List.mem_append_left _ (hs.listed_used hu)
      · rw [List.mem_singleton.1 hu]
        exact List.mem_append_right _ (List.mem_singleton_self _)

/-- Two uses are of one lock where they are for one key, and only there. -/
theorem lock_eq_iff (hs : s.Sound) (hu : u ∈ s.uses) (hv : v ∈ s.uses) :
    u.lock = v.lock ↔ u.key = v.key := by
  have hu := hs.listed u hu
  have hv := hs.listed v hv
  constructor
  · intro h
    exact congrArg Prod.fst (List.inj_on_of_nodup_map hs.locks hu hv h)
  · intro h
    exact congrArg Prod.snd (List.inj_on_of_nodup_map hs.keys hu hv h)

/-- A lock is held exactly when somebody holds it for the key. -/
theorem isHeld_iff (hs : s.Sound) (hu : u ∈ s.uses) :
    s.isHeld u.lock = true ↔ ∃ v ∈ s.uses, v.holds = true ∧ v.key = u.key := by
  simp only [isHeld, List.any_eq_true, Bool.and_eq_true, decide_eq_true_eq]
  constructor
  · rintro ⟨v, hv, hlock, hholds⟩
    exact ⟨v, hv, hholds, (hs.lock_eq_iff hv hu).1 hlock⟩
  · rintro ⟨v, hv, hholds, hkey⟩
    exact ⟨v, hv, (hs.lock_eq_iff hv hu).2 hkey, hholds⟩

/-- Whoever waits for a lock can be given it exactly when nobody holds it for the key. -/
theorem grant_isSome_iff (hs : s.Sound) (hu : u ∈ s.uses) :
    (s.grant u.ticket).isSome = true ↔ ∀ v ∈ s.uses, v.holds = true → v.key ≠ u.key := by
  have hheld := hs.isHeld_iff hu
  simp only [Locks.grant, find?_of_nodup hs.tickets hu]
  split
  · next h =>
    simp only [Option.isSome_none, Bool.false_eq_true, false_iff, not_forall, not_not]
    rcases Bool.or_eq_true_iff.1 h with hholds | h
    · exact ⟨u, hu, hholds, rfl⟩
    · obtain ⟨v, hv, hholds, hkey⟩ := hheld.1 h
      exact ⟨v, hv, hholds, hkey⟩
  · next h =>
    simp only [Option.isSome_some, true_iff]
    intro v hv hholds hkey
    exact h (Bool.or_eq_true_iff.2 (.inr (hheld.2 ⟨v, hv, hholds, hkey⟩)))

theorem grant (hs : s.Sound) (h : s.grant ticket = some s') : s'.Sound := by
  obtain ⟨u, hu, hticket, hfree, rfl⟩ := exists_granted h
  refine ⟨hs.keys, hs.locks, hs.made, ?_, ?_, ?_, ?_⟩
  · simpa using hs.listed
  · simpa [Function.comp_def] using hs.tickets
  · simpa using hs.given
  · simp only [List.forall_mem_map, LockUse.lock_granted, LockUse.holds_granted]
    -- Who holds a lock now was granted it, and then nobody held it, or held it before.
    have hother : ∀ v ∈ s.uses, v.holds = true → v.lock ≠ u.lock := fun v hv hholds hlock =>
      hfree (List.any_eq_true.2 ⟨v, hv, by simp [hlock, hholds]⟩)
    have hsame : ∀ v ∈ s.uses, v.ticket = ticket → v = u := fun v hv heq =>
      List.inj_on_of_nodup_map hs.tickets hv hu (heq.trans hticket.symm)
    rintro v hv w hw (hv' | hv') (hw' | hw') hlock
    · rw [hsame v hv hv', hsame w hw hw']
    · exact absurd (hsame v hv hv' ▸ hlock.symm) (hother w hw hw')
    · exact absurd (hsame w hw hw' ▸ hlock) (hother v hv hv')
    · rw [hs.alone v hv w hw hv' hw' hlock]

theorem release (hs : s.Sound) (h : s.release ticket = some s') : s'.Sound := by
  unfold Locks.release at h
  split at h
  · obtain rfl := Option.some.inj h
    have hsub : ∀ u ∈ s.uses.filter fun u => u.ticket ≠ ticket, u ∈ s.uses := fun u hu =>
      (List.mem_filter.1 hu).1
    exact ⟨hs.keys, hs.locks, hs.made, fun u hu => hs.listed u (hsub u hu),
      hs.tickets.sublist (List.filter_sublist.map _), fun u hu => hs.given u (hsub u hu),
      fun u hu v hv => hs.alone u (hsub u hu) v (hsub v hv)⟩
  · cases h

theorem step (hs : s.Sound) {event : LockEvent} (h : s.step event = some s') : s'.Sound := by
  cases event with
  | ask key => exact Option.some.inj h ▸ hs.ask key
  | grant ticket => exact hs.grant h
  | release ticket => exact hs.release h

theorem foldlM (hs : s.Sound) {events : List LockEvent} (h : events.foldlM Locks.step s = some s') :
    s'.Sound := by
  induction events generalizing s with
  | nil => exact Option.some.inj h ▸ hs
  | cons event rest ih =>
    obtain ⟨t, ht, hrest⟩ := Option.bind_eq_some_iff.1 h
    exact ih (hs.step ht) hrest

theorem run {events : List LockEvent} (h : run events = some s) : s.Sound := start.foldlM h

/-! ## What the locks see to -/

/-- At most one holds a lock for a key. -/
theorem countP_holds_le_one (hs : s.Sound) (key : LockKey) :
    s.uses.countP (fun u => u.holds && u.key = key) ≤ 1 := by
  have hnodup : (s.uses.filter fun u => u.holds && u.key = key).Nodup :=
    (List.Nodup.of_map _ hs.tickets).filter _
  rw [List.countP_eq_length_filter]
  match hf : s.uses.filter fun u => u.holds && u.key = key with
  | [] => simp [hf]
  | [_] => simp [hf]
  | u :: v :: rest =>
    have hmem {w : LockUse} (hw : w ∈ u :: v :: rest) :
        w ∈ s.uses ∧ w.holds = true ∧ w.key = key := by
      rw [← hf] at hw
      simpa using hw
    obtain ⟨hu, hholds, hkey⟩ := hmem List.mem_cons_self
    obtain ⟨hv, hholds', hkey'⟩ := hmem (List.mem_cons_of_mem u List.mem_cons_self)
    have hlock : u.lock = v.lock := (hs.lock_eq_iff hu hv).2 (hkey.trans hkey'.symm)
    rw [hf, hs.alone u hu v hv hholds hholds' hlock] at hnodup
    simp at hnodup

/-- After somebody has asked, the keys in the table are those that are held or waited for. -/
theorem mem_keys_ask_iff (hs : s.Sound) (key k : LockKey) :
    k ∈ (s.ask key).table.map (·.1) ↔ ∃ u ∈ (s.ask key).uses, u.key = k := by
  constructor
  · intro hk
    have hused : ∀ e ∈ s.usedTable, ∃ u ∈ s.uses, u.key = e.1 := by
      intro e he
      obtain ⟨hmem, u, hu, hlock⟩ := mem_usedTable.1 he
      exact ⟨u, hu, congrArg Prod.fst
        (List.inj_on_of_nodup_map hs.locks (hs.listed u hu) hmem hlock)⟩
    obtain ⟨e, he, rfl⟩ := List.mem_map.1 hk
    have hasked := asked hs.keys key
    generalize s.ask key = s' at hasked he ⊢
    cases hasked with
    | join lock h =>
      obtain ⟨u, hu, heq⟩ := hused e he
      exact ⟨u, List.mem_append_left _ hu, heq⟩
    | make h =>
      rcases List.mem_append.1 he with he | he
      · obtain ⟨u, hu, heq⟩ := hused e he
        exact ⟨u, List.mem_append_left _ hu, heq⟩
      · rw [List.mem_singleton.1 he]
        exact ⟨_, List.mem_append_right _ (List.mem_singleton_self _), rfl⟩
  · rintro ⟨u, hu, rfl⟩
    exact List.mem_map.2 ⟨_, (hs.ask key).listed u hu, rfl⟩

end Sound

/-- **There is one lock for a key.**  After every run at most one holds a lock for a key, and
whoever waits for it is given it exactly when nobody does.  All who hold a lock for a key or wait
for it use one lock, the one that the table has for the key and goes on having when it is rid of
those that nobody uses; and once somebody has asked, the table has a lock for the keys that are held
or waited for and for no others. -/
theorem one_lock_for_a_key {events : List LockEvent} (h : run events = some s) :
    (∀ key, s.uses.countP (fun u => u.holds && u.key = key) ≤ 1) ∧
      (∀ u ∈ s.uses, (s.grant u.ticket).isSome = true ↔
        ∀ v ∈ s.uses, v.holds = true → v.key ≠ u.key) ∧
      (∀ u ∈ s.uses, s.table.lookup u.key = some u.lock ∧
        s.usedTable.lookup u.key = some u.lock) ∧
      (∀ u ∈ s.uses, ∀ v ∈ s.uses, u.lock = v.lock ↔ u.key = v.key) ∧
      ∀ key, ((s.ask key).table.map (·.1)).Nodup ∧
        ∀ k, k ∈ (s.ask key).table.map (·.1) ↔ ∃ u ∈ (s.ask key).uses, u.key = k := by
  have hs : s.Sound := Sound.run h
  have hused : (s.usedTable.map (·.1)).Nodup := hs.keys.sublist (List.filter_sublist.map _)
  refine ⟨hs.countP_holds_le_one, fun u hu => hs.grant_isSome_iff hu, fun u hu => ⟨?_, ?_⟩,
    fun u hu v hv => hs.lock_eq_iff hu hv, fun key => ⟨(hs.ask key).keys, hs.mem_keys_ask_iff key⟩⟩
  · exact lookup_of_nodup hs.keys (hs.listed u hu)
  · exact lookup_of_nodup hused (hs.listed_used hu)

/-- Of two who ask for one key the first holds it and the second has to wait.  The lock for another
key, which was given back in between, is taken out when somebody asks for a third. -/
theorem one_lock_for_a_key_three :
    ∃ s, run [.ask ⟨"!list", "@a"⟩, .ask ⟨"!list", "@b"⟩, .grant 1, .grant 0,
        .ask ⟨"!list", "@a"⟩, .release 1] = some s ∧
      s.uses.countP (fun u => u.holds && u.key = ⟨"!list", "@a"⟩) ≤ 1 ∧
      (s.grant 2).isSome = false ∧
      s.table.map (·.1) = [⟨"!list", "@a"⟩, ⟨"!list", "@b"⟩] ∧
      (s.ask ⟨"!list", "@c"⟩).table.map (·.1) = [⟨"!list", "@a"⟩, ⟨"!list", "@c"⟩] ∧
      ∃ u ∈ (s.ask ⟨"!list", "@c"⟩).uses, u.key = ⟨"!list", "@c"⟩ := by
  have hrun : run [.ask ⟨"!list", "@a"⟩, .ask ⟨"!list", "@b"⟩, .grant 1, .grant 0,
      .ask ⟨"!list", "@a"⟩, .release 1] =
      some ⟨[(⟨"!list", "@a"⟩, 0), (⟨"!list", "@b"⟩, 1)],
        [⟨0, ⟨"!list", "@a"⟩, 0, true⟩, ⟨2, ⟨"!list", "@a"⟩, 0, false⟩], 3⟩ := by
    decide
  obtain ⟨hone, -, -, -, hkeys⟩ := one_lock_for_a_key hrun
  refine ⟨_, hrun, hone _, by decide, by decide, by decide, ?_⟩
  exact ((hkeys _).2 _).1 (by decide)

end Locks
end Moderation

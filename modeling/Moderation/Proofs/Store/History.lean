import Mathlib.Tactic.Choose
import Moderation.Proofs.Store.Backends
/-!
# What stands after what was published

A store is determined by what was published to it.  Under a key **stands** what was last published
under it, unless that is a tombstone (`standing`), and the keys come in the order in which they
**arrived**: a key arrives when something is published under it that stands from then on to the end
(`ArrivedAt`).  To publish one more record leaves just what stands then (`Standing.concat`).

A query finds those of the records that it **selects** (`PolicyQuery.Selects`), in their order, so
what an exact query finds is also found by pattern.  All this holds of a store in memory and of one
in a database, whatever it has been asked before (`CachedStore.holds_what_was_published`).
-/

namespace Moderation

/-! ## The records that stand -/

section
variable (key : String × EntityKind × String) (published : List PolicyRecord)

/-- What was published last under a key. -/
def lastUnder : Option PolicyRecord := published.reverse.find? (·.key = key)

/-- What stands under a key: what was published last under it, unless that is a tombstone. -/
def standing : Option PolicyRecord :=
  (lastUnder key published).filter fun r => !r.content.isTombstone

/-- Nothing stood under a key before one of the publications, and ever since something has. -/
structure ArrivedAt (n : Nat) : Prop where
  lt_length : n < published.length
  before : standing key (published.take n) = none
  since : ∀ m, n < m → m ≤ published.length → (standing key (published.take m)).isSome = true

end

section
variable {key : String × EntityKind × String} {published : List PolicyRecord} {r : PolicyRecord}

theorem lastUnder_concat (r : PolicyRecord) :
    lastUnder key (published ++ [r]) = if r.key = key then some r else lastUnder key published := by
  rw [lastUnder, List.reverse_append, List.reverse_singleton, List.singleton_append,
    List.find?_cons]
  by_cases h : r.key = key
  · simp [h]
  · simp [h, lastUnder]

theorem standing_concat (r : PolicyRecord) :
    standing key (published ++ [r]) =
      if r.key = key then if r.content.isTombstone then none else some r
      else standing key published := by
  unfold standing
  rw [lastUnder_concat]
  split
  · cases h : r.content.isTombstone <;> simp [h]
  · rfl

theorem standing_eq_some (h : standing key published = some r) :
    r.key = key ∧ r.content.isTombstone = false := by
  obtain ⟨hlast, hrule⟩ := Option.filter_eq_some_iff.1 h
  exact ⟨by simpa using List.find?_some hlast, by simpa using hrule⟩

/-- A key arrives once. -/
theorem ArrivedAt.unique {n n' : Nat} (h : ArrivedAt key published n)
    (h' : ArrivedAt key published n') : n = n' := by
  have le {a b : Nat} (ha : ArrivedAt key published a) (hb : ArrivedAt key published b) :
      b ≤ a := by
    by_contra hlt
    have hsome := ha.since b (by omega) (Nat.le_of_lt hb.lt_length)
    rw [hb.before] at hsome
    cases hsome
  exact Nat.le_antisymm (le h' h) (le h h')

/-- A key that has arrived and that something still stands under has arrived just then. -/
theorem ArrivedAt.concat {n : Nat} (h : ArrivedAt key published n)
    (hstands : (standing key (published ++ [r])).isSome = true) :
    ArrivedAt key (published ++ [r]) n where
  lt_length := by
    rw [List.length_append]
    exact Nat.lt_add_right _ h.lt_length
  before := by
    rw [List.take_append_of_le_length (Nat.le_of_lt h.lt_length)]
    exact h.before
  since := by
    intro m hm hle
    rcases Nat.lt_or_ge published.length m with hlast | hinside
    · rw [List.take_of_length_le (by simp; omega)]
      exact hstands
    · rw [List.take_append_of_le_length hinside]
      exact h.since m hm hinside

/-- A key under which nothing stood arrives with the rule that is published under it. -/
theorem arrivedAt_concat (hnone : standing r.key published = none)
    (hrule : r.content.isTombstone = false) :
    ArrivedAt r.key (published ++ [r]) published.length where
  lt_length := by simp
  before := by simpa using hnone
  since := by
    intro m hm hle
    rw [List.take_of_length_le (by simp; omega), standing_concat, if_pos rfl, hrule]
    rfl

end

/-! ## What publishing does to the list -/

section
variable {r : PolicyRecord} {records : List PolicyRecord}

/-- A rule under a new key comes last. -/
theorem publishRecord_of_new (hrule : r.content.isTombstone = false)
    (hnew : ∀ p ∈ records, p.key ≠ r.key) : publishRecord r records = records ++ [r] := by
  induction records with
  | nil => simp [publishRecord, hrule]
  | cons p records ih =>
    rw [publishRecord, if_neg (hnew p List.mem_cons_self),
      ih fun q hq => hnew q (List.mem_cons_of_mem p hq), List.cons_append]

/-- A rule under a key that is there leaves the keys as they are. -/
theorem map_key_publishRecord (hrule : r.content.isTombstone = false)
    (hold : ∃ p ∈ records, p.key = r.key) :
    (publishRecord r records).map PolicyRecord.key = records.map PolicyRecord.key := by
  induction records with
  | nil => simp at hold
  | cons p records ih =>
    unfold publishRecord
    split
    · next hkey => simp [hrule, hkey]
    · next hkey =>
      obtain ⟨q, hq, hqr⟩ := hold
      rcases List.mem_cons.1 hq with rfl | hq
      · exact absurd hqr hkey
      · rw [List.map_cons, List.map_cons, ih ⟨q, hq, hqr⟩]

/-- A tombstone only takes away. -/
theorem publishRecord_sublist (htomb : r.content.isTombstone = true) :
    (publishRecord r records).Sublist records := by
  induction records with
  | nil => simp [publishRecord, htomb]
  | cons p records ih =>
    unfold publishRecord
    split
    · exact List.sublist_cons_self p records
    · exact ih.cons_cons p

end

/-- Some records are what stands after some publications, under the keys in the order in which they
arrived. -/
structure Standing (published records : List PolicyRecord) : Prop where
  keyed : Keyed records
  mem_iff : ∀ r, r ∈ records ↔ standing r.key published = some r
  ordered : (records.map PolicyRecord.key).Pairwise fun k l =>
    ∃ i j, ArrivedAt k published i ∧ ArrivedAt l published j ∧ i < j
  arrived : ∀ r ∈ records, ∃ n, ArrivedAt r.key published n

namespace Standing

variable {published records : List PolicyRecord}

theorem nil : Standing [] [] where
  keyed := List.nodup_nil
  mem_iff := fun r => by simp [standing, lastUnder]
  ordered := List.Pairwise.nil
  arrived := by simp

theorem not_tombstone (h : Standing published records) {r : PolicyRecord} (hr : r ∈ records) :
    r.content.isTombstone = false :=
  (standing_eq_some ((h.mem_iff r).1 hr)).2

/-- Under a key that no record has nothing stands. -/
theorem standing_eq_none (h : Standing published records) {key : String × EntityKind × String}
    (hnew : ∀ p ∈ records, p.key ≠ key) : standing key published = none := by
  rw [Option.eq_none_iff_forall_ne_some]
  intro p hp
  obtain ⟨rfl, -⟩ := standing_eq_some hp
  exact hnew p ((h.mem_iff p).2 hp) rfl

theorem mem_iff_concat (h : Standing published records) (r p : PolicyRecord) :
    p ∈ publishRecord r records ↔ standing p.key (published ++ [r]) = some p := by
  rw [mem_publishRecord h.keyed, standing_concat, h.mem_iff]
  by_cases hkey : r.key = p.key
  · cases htomb : r.content.isTombstone <;> simp [hkey, eq_comm]
  · have hne : p ≠ r := by
      rintro rfl
      exact hkey rfl
    simp [hkey, Ne.symm hkey, hne]

/-- **What stands after one more publication is what publishing it to the records gives.** -/
theorem concat (h : Standing published records) (r : PolicyRecord) :
    Standing (published ++ [r]) (publishRecord r records) := by
  have hkeyed := keyed_publishRecord r h.keyed
  have hmem := h.mem_iff_concat r
  -- What has arrived and is still there has arrived at the same time.
  have hstays {p : PolicyRecord} (hp : p ∈ publishRecord r records) {n : Nat}
      (hn : ArrivedAt p.key published n) : ArrivedAt p.key (published ++ [r]) n :=
    hn.concat (by rw [(hmem p).1 hp]; rfl)
  have hpairs {keys : List (String × EntityKind × String)}
      (hsub : keys.Sublist (records.map PolicyRecord.key))
      (hkeys : ∀ k ∈ keys, ∃ p ∈ publishRecord r records, p.key = k) :
      keys.Pairwise fun k l =>
        ∃ i j, ArrivedAt k (published ++ [r]) i ∧ ArrivedAt l (published ++ [r]) j ∧ i < j := by
    refine (h.ordered.sublist hsub).imp_of_mem ?_
    rintro k l hk hl ⟨i, j, hi, hj, hij⟩
    obtain ⟨p, hp, rfl⟩ := hkeys k hk
    obtain ⟨q, hq, rfl⟩ := hkeys l hl
    exact ⟨i, j, hstays hp hi, hstays hq hj, hij⟩
  have hself : ∀ k ∈ (publishRecord r records).map PolicyRecord.key,
      ∃ p ∈ publishRecord r records, p.key = k := fun k hk => List.mem_map.1 hk
  cases htomb : r.content.isTombstone with
  | true =>
    have hsub : (publishRecord r records).Sublist records := publishRecord_sublist htomb
    refine ⟨hkeyed, hmem, hpairs (hsub.map _) hself, fun p hp => ?_⟩
    obtain ⟨n, hn⟩ := h.arrived p (hsub.subset hp)
    exact ⟨n, hstays hp hn⟩
  | false =>
    by_cases hold : ∃ p ∈ records, p.key = r.key
    · have hkeys := map_key_publishRecord htomb hold
      refine ⟨hkeyed, hmem, hpairs (by rw [hkeys]) hself, fun p hp => ?_⟩
      obtain ⟨q, hq, hqp⟩ := List.mem_map.1 (hkeys ▸ List.mem_map_of_mem hp)
      obtain ⟨n, hn⟩ := h.arrived q hq
      exact ⟨n, hstays hp (hqp ▸ hn)⟩
    · have hnew : ∀ p ∈ records, p.key ≠ r.key := fun p hp he => hold ⟨p, hp, he⟩
      have hlast := arrivedAt_concat (h.standing_eq_none hnew) htomb
      have happend := publishRecord_of_new htomb hnew
      have hstill {p : PolicyRecord} (hp : p ∈ records) : p ∈ publishRecord r records :=
        happend ▸ List.mem_append_left _ hp
      refine ⟨hkeyed, hmem, ?_, fun p hp => ?_⟩
      · rw [happend, List.map_append, List.map_singleton, List.pairwise_append]
        refine ⟨hpairs (List.Sublist.refl _) fun k hk => ?_, List.pairwise_singleton _ _, ?_⟩
        · obtain ⟨p, hp, rfl⟩ := List.mem_map.1 hk
          exact ⟨p, hstill hp, rfl⟩
        · intro k hk l hl
          obtain ⟨p, hp, rfl⟩ := List.mem_map.1 hk
          obtain rfl := List.mem_singleton.1 hl
          obtain ⟨n, hn⟩ := h.arrived p hp
          exact ⟨n, published.length, hstays (hstill hp) hn, hlast, hn.lt_length⟩
      · rw [happend] at hp
        rcases List.mem_append.1 hp with hp | hp
        · obtain ⟨n, hn⟩ := h.arrived p hp
          exact ⟨n, hstays (hstill hp) hn⟩
        · obtain rfl := List.mem_singleton.1 hp
          exact ⟨_, hlast⟩

/-- The records come in the order in which their keys arrived. -/
theorem exists_arrival (h : Standing published records) :
    ∃ arrival : String × EntityKind × String → Nat,
      (∀ r ∈ records, ArrivedAt r.key published (arrival r.key)) ∧
        (records.map fun r => arrival r.key).Pairwise (· < ·) := by
  have hexists (key : String × EntityKind × String) :
      ∃ n, ∀ m, ArrivedAt key published m → n = m := by
    by_cases hn : ∃ n, ArrivedAt key published n
    · obtain ⟨n, hn⟩ := hn
      exact ⟨n, fun m hm => hn.unique hm⟩
    · exact ⟨0, fun m hm => absurd ⟨m, hm⟩ hn⟩
  choose arrival harrival using hexists
  refine ⟨arrival, fun r hr => ?_, ?_⟩
  · obtain ⟨n, hn⟩ := h.arrived r hr
    exact (harrival _ _ hn).symm ▸ hn
  · have hmap : (records.map fun r => arrival r.key) =
        (records.map PolicyRecord.key).map arrival := by rw [List.map_map]; rfl
    rw [hmap, List.pairwise_map]
    refine h.ordered.imp ?_
    rintro k l ⟨i, j, hi, hj, hij⟩
    rwa [harrival k i hi, harrival l j hj]

end Standing

/-! ## What is found -/

/-- A content is on a value: it names the value, or names nothing and has the digest of the
value. -/
def PolicyContent.Names (c : PolicyContent) (value : String) : Prop :=
  (c.entity ≠ "" ∧ c.entity = value) ∨ (c.entity = "" ∧ c.sha256 = some (Entity.pseudonym value))

/-- The entity of a content has a wildcard in it and, where it can be matched as a glob, matches a
value. -/
def PolicyContent.Covers (c : PolicyContent) (value : String) : Prop :=
  ('*' ∈ c.entity.toList ∨ '?' ∈ c.entity.toList) ∧
    ∃ g, Glob.compile c.entity = .ok g ∧ g.isMatch value = true

/-- A query selects a record: it has the kind, is in one of the lists if these are given, and names
the value or, by pattern, covers it. -/
structure PolicyQuery.Selects (q : PolicyQuery) (r : PolicyRecord) : Prop where
  kind : r.kind = q.kind
  scope : ∀ lists, q.lists = some lists → r.listRoom ∈ lists
  about : r.content.Names q.value ∨ (q.mode = .pattern ∧ r.content.Covers q.value)

theorem Glob.covers_eq_true {c : PolicyContent} {value : String} :
    Glob.covers c.entity value = true ↔ c.Covers value := by
  have hglob : Glob.isGlob c.entity = true ↔ '*' ∈ c.entity.toList ∨ '?' ∈ c.entity.toList := by
    simp only [Glob.isGlob, List.any_eq_true, Bool.or_eq_true, decide_eq_true_eq]
    constructor
    · rintro ⟨d, hd, rfl | rfl⟩
      · exact .inl hd
      · exact .inr hd
    · rintro (h | h)
      · exact ⟨_, h, .inl rfl⟩
      · exact ⟨_, h, .inr rfl⟩
  unfold Glob.covers PolicyContent.Covers
  rw [Bool.and_eq_true, hglob]
  cases Glob.compile c.entity <;> simp

/-- A content that is no tombstone concerns what it names and, by pattern, what it covers. -/
theorem PolicyContent.concerns_iff {c : PolicyContent} (hrule : c.isTombstone = false)
    (mode : MatchMode) (value : String) :
    c.concerns mode value = true ↔ c.Names value ∨ (mode = .pattern ∧ c.Covers value) := by
  unfold concerns
  rw [if_neg (by simp [hrule]), ← Glob.covers_eq_true]
  by_cases hempty : c.entity = ""
  · have hglob : Glob.covers c.entity value = false := by simp [hempty, Glob.covers, Glob.isGlob]
    simp [Names, hempty, hempty ▸ hglob]
  · by_cases hvalue : c.entity = value
    · have hvalue' : value ≠ "" := hvalue ▸ hempty
      simp [Names, hvalue, hvalue']
    · cases mode <;> simp [Names, hempty, hvalue]

theorem PolicyQuery.accepts_iff {q : PolicyQuery} {r : PolicyRecord}
    (hrule : r.content.isTombstone = false) : q.accepts r = true ↔ q.Selects r := by
  have hscope : q.lists.all (r.listRoom ∈ ·) = true ↔
      ∀ lists, q.lists = some lists → r.listRoom ∈ lists := by
    cases q.lists <;> simp
  simp only [accepts, Bool.and_eq_true, decide_eq_true_eq, hscope,
    PolicyContent.concerns_iff hrule]
  constructor
  · rintro ⟨⟨hkind, hlists⟩, habout⟩
    exact ⟨hkind, hlists, habout⟩
  · intro h
    exact ⟨⟨h.kind, h.scope⟩, h.about⟩

/-- What an exact query selects is also selected by pattern. -/
theorem PolicyQuery.Selects.pattern {q : PolicyQuery} {r : PolicyRecord} (h : q.Selects r)
    (hq : q.mode = .exact) : { q with mode := .pattern : PolicyQuery }.Selects r where
  kind := h.kind
  scope := h.scope
  about := by
    rcases h.about with hnames | ⟨hmode, -⟩
    · exact .inl hnames
    · rw [hq] at hmode
      cases hmode

/-! ## A store that is called -/

/-- The record that a call publishes. -/
def StoreCall.published? : StoreCall → Option PolicyRecord
  | .publish r => some r
  | _ => none

namespace CachedStore

/-- A store after some calls. -/
def after (s : CachedStore) (calls : List StoreCall) : CachedStore :=
  calls.foldl (fun s c => (s.call c).2) s

variable {s : CachedStore} {published records : List PolicyRecord}

/-- A call changes what a store holds only if it publishes something. -/
theorem records?_call (hs : s.store.records? = some records) (hk : Keyed records)
    (c : StoreCall) :
    (s.call c).2.store.records? =
      some (c.published?.toList.foldl (fun records r => publishRecord r records) records) := by
  cases c with
  | publish r => exact Store.records?_publish hs hk r
  | remember user => exact (Store.records?_remember s.store user).trans hs
  | reverse _ => exact hs
  | find _ => exact hs

theorem standing_after (calls : List StoreCall) (hs : s.store.records? = some records)
    (h : Standing published records) :
    ∃ records', (s.after calls).store.records? = some records' ∧
      Standing (published ++ calls.filterMap StoreCall.published?) records' := by
  induction calls generalizing s published records with
  | nil => exact ⟨records, hs, by simpa using h⟩
  | cons c calls ih =>
    have hcall := records?_call hs h.keyed c
    have hafter : s.after (c :: calls) = (s.call c).2.after calls := rfl
    rw [hafter]
    cases hc : c.published? with
    | none =>
      rw [hc] at hcall
      simpa [hc] using ih hcall h
    | some r =>
      rw [hc] at hcall
      simpa [hc] using ih hcall (h.concat r)

/-- **A store finds the records that a query selects**, in their order. -/
theorem find_selects (hs : s.store.records? = some records) (h : Standing published records)
    (q : PolicyQuery) :
    (s.find q).1.Sublist records ∧ ∀ r, r ∈ (s.find q).1 ↔ r ∈ records ∧ q.Selects r := by
  rw [find_fst, Store.find_eq_filter hs]
  refine ⟨List.filter_sublist, fun r => ?_⟩
  rw [List.mem_filter, and_congr_right_iff]
  exact fun hr => PolicyQuery.accepts_iff (h.not_tombstone hr)

/-- What a store finds exactly it also finds by pattern, whatever globs are kept. -/
theorem find_exact_sublist (hs : s.store.records? = some records)
    (h : Standing published records) (q : PolicyQuery) (globs : GlobCache) :
    (s.find { q with mode := .exact }).1.Sublist
      (CachedStore.find { s with globs } { q with mode := .pattern }).1 := by
  rw [find_fst, find_fst, Store.find_eq_filter hs, Store.find_eq_filter hs]
  have himp : ∀ r ∈ records, { q with mode := .exact : PolicyQuery }.accepts r = true →
      { q with mode := .pattern : PolicyQuery }.accepts r = true := fun r hr ha =>
    (PolicyQuery.accepts_iff (h.not_tombstone hr)).2
      (((PolicyQuery.accepts_iff (h.not_tombstone hr)).1 ha).pattern rfl)
  have hfilter : records.filter { q with mode := .exact : PolicyQuery }.accepts =
      (records.filter { q with mode := .pattern : PolicyQuery }.accepts).filter
        { q with mode := .exact : PolicyQuery }.accepts := by
    rw [List.filter_filter]
    refine List.filter_congr fun r hr => ?_
    cases ha : { q with mode := .exact : PolicyQuery }.accepts r with
    | false => rfl
    | true => simp [himp r hr ha]
  rw [hfilter]
  exact List.filter_sublist

/-- A store holds some records, which are what stands after some publications, and finds them. -/
structure Holds (s : CachedStore) (published records : List PolicyRecord) : Prop where
  holds : s.store.records? = some records
  /-- No two records are under one key. -/
  keyed : (records.map PolicyRecord.key).Nodup
  /-- Under a key is what was published last under it, unless that was a tombstone. -/
  mem_iff : ∀ r, r ∈ records ↔
    lastUnder r.key published = some r ∧ r.content.isTombstone = false
  /-- The records are in the order in which their keys arrived. -/
  ordered : ∃ arrival : String × EntityKind × String → Nat,
    (∀ r ∈ records, ArrivedAt r.key published (arrival r.key)) ∧
      (records.map fun r => arrival r.key).Pairwise (· < ·)
  find_sublist : ∀ q, (s.find q).1.Sublist records
  mem_find_iff : ∀ q r, r ∈ (s.find q).1 ↔ r ∈ records ∧ q.Selects r
  /-- What is found exactly is found by pattern, be it with other globs that are kept. -/
  exact_sublist : ∀ (q : PolicyQuery) (globs : GlobCache),
    (s.find { q with mode := .exact }).1.Sublist
      (CachedStore.find { s with globs } { q with mode := .pattern }).1

/-- **A store that begins with no records holds what was published to it**, and answers queries from
that, whatever else it was asked and whatever globs are kept. -/
theorem holds_what_was_published (hempty : s.store.records? = some [])
    (calls : List StoreCall) :
    ∃ records, (s.after calls).Holds (calls.filterMap StoreCall.published?) records := by
  obtain ⟨records, hrecords, h⟩ := standing_after calls hempty .nil
  rw [List.nil_append] at h
  refine ⟨records, hrecords, h.keyed, fun r => ?_, h.exists_arrival,
    fun q => (find_selects hrecords h q).1, fun q => (find_selects hrecords h q).2,
    find_exact_sublist hrecords h⟩
  rw [h.mem_iff, standing, Option.filter_eq_some_iff, Bool.not_eq_true']

/-- In a database a user is banned, a glob that covers the user is unbanned, the ban is taken away
and comes back after the unban; in between the user is looked up. -/
theorem holds_what_was_published_in_database :
    let record (key entity : String) (recommendation : Option Recommendation) : PolicyRecord :=
      { listRoom := "!list:example.org", kind := .user, stateKey := key,
        sender := "@bot:example.org", content := { entity, recommendation } }
    let calls : List StoreCall :=
      [.publish (record "1" "@a:b" (some .ban)), .publish (record "2" "@*:b" (some .unban)),
        .find { mode := .pattern, kind := .user, value := "@a:b" },
        .publish (record "1" "" none), .publish (record "1" "@a:b" (some .takedown))]
    ∃ records, (after { store := .database {} } calls).Holds
      [record "1" "@a:b" (some .ban), record "2" "@*:b" (some .unban), record "1" "" none,
        record "1" "@a:b" (some .takedown)] records := by
  intro record calls
  exact holds_what_was_published (s := { store := .database {} }) rfl calls

end CachedStore
end Moderation

import Moderation.Proofs.Moderator.Planning
import Moderation.Proofs.Store.Orderly
/-!
# Where a mutation publishes

Whatever the records of a list say, a mutation looks for those on its entity (`Mutation.recordsOn`).
It publishes over one of them, under the key of that one; or, if there are none, a rule goes under
the key that is derived from the entity and from what it recommends (`Mutation.Place`).  A removal
always goes over one of them.  Every plan of an issued mutation is **placed** so
(`Mutation.placed_of_plan`).

So the records on the entity stay as many as they are, or one comes to be where there was none, or
one is taken away (`Mutation.Placed.length_recordsOn`).  The others stay, except for one that stands
under the derived key (`Mutation.Placed.mem_or_displaces`), whose place a new rule takes
(`Mutation.Placed.replaces`).
-/

namespace Moderation

/-- What is on an entity is about it, exactly and by pattern, unless it is a tombstone. -/
theorem PolicyContent.concerns_of_targets {c : PolicyContent} {entity : String}
    (h : c.targets entity = true) (hrule : c.isTombstone = false) (hne : entity ≠ "")
    (mode : MatchMode) : c.concerns mode entity = true := by
  rcases Bool.or_eq_true_iff.1 h with hnamed | hhidden
  · have heq : c.entity = entity := by simpa using hnamed
    simp [concerns, hrule, heq, hne]
  · obtain ⟨hempty, hdigest⟩ : c.entity = "" ∧ c.sha256 = some (Entity.pseudonym entity) := by
      simpa using hhidden
    simp [concerns, hrule, hempty, hdigest]

/-- What a change recommends.  A removal recommends nothing. -/
def Change.recommendation? : Change → Option Recommendation
  | .ban recommendation _ _ => some recommendation
  | .reportBan _ => some .ban
  | .unban _ => some .unban
  | .remove _ => none

namespace Mutation

/-- Whether a record is in the list of a mutation, of its kind and on its entity. -/
def isOn (m : Mutation) (r : PolicyRecord) : Bool :=
  r.listRoom = m.list.roomId && r.kind = m.kind && r.content.targets m.entity

/-- The records in the list of a mutation that are of its kind and on its entity. -/
def recordsOn (m : Mutation) (records : List PolicyRecord) : List PolicyRecord :=
  records.filter m.isOn

variable {m : Mutation} {records : List PolicyRecord} {p : Publication}

theorem mem_recordsOn {r : PolicyRecord} :
    r ∈ m.recordsOn records ↔ r ∈ records ∧ r.listRoom = m.list.roomId ∧ r.kind = m.kind ∧
      r.content.targets m.entity = true := by
  simp [recordsOn, isOn, List.mem_filter, and_assoc]

/-- The state keys that a mutation may publish under. -/
inductive Place (m : Mutation) (records : List PolicyRecord) : String → Prop
  /-- That of a record on its entity. -/
  | existing {old : PolicyRecord} (hold : old ∈ m.recordsOn records) : Place m records old.stateKey
  /-- The one that is derived from its entity and what it recommends, where no record is there to
  be taken over.  For an entity without a name, as a report may have one, nothing is said of the
  records: the digest of no text may stand in any of them. -/
  | fresh {recommendation : Recommendation}
      (hchange : m.change.recommendation? = some recommendation)
      (hnone : m.entity ≠ "" → m.recordsOn records = []) :
    Place m records (derivedStateKey m.entity (some recommendation))

/-- A publication is placed: its content is what the mutation recommends about its entity, or the
tombstone if that is nothing, and its key is one that the mutation may publish under. -/
structure Placed (m : Mutation) (records : List PolicyRecord) (p : Publication) : Prop where
  recommends : p.content.recommendation = m.change.recommendation?
  about : p.content.isTombstone = false → p.content.IsAbout m.entity
  tombstone : p.content.isTombstone = true → p.content = .tombstone
  place : m.Place records p.stateKey

/-- A record stands under the key that is derived for a new rule, and a new rule is what the
mutation publishes, as no record on its entity is there to be taken over. -/
def Displaces (m : Mutation) (records : List PolicyRecord) (r : PolicyRecord) : Prop :=
  ∃ recommendation, m.change.recommendation? = some recommendation ∧
    (m.entity ≠ "" → m.recordsOn records = []) ∧
    r.key = (m.list.roomId, m.kind, derivedStateKey m.entity (some recommendation))

/-! ## Every plan is placed -/

section
variable (ho : Orderly records) {q : PolicyQuery} (hkind : q.kind = m.kind)
  (hv : q.value = m.entity)
include ho hkind hv

/-- A rule takes over what a query finds of its entity, and has a derived key if that is nothing. -/
theorem place_rule (hlists : ∀ lists ∈ q.lists, m.list.roomId ∈ lists)
    {recommendation : Recommendation}
    (hchange : m.change.recommendation? = some recommendation) :
    m.Place records (Publication.stateKeyFor
      (Decision.existingKey (records.filter q.accepts) m.list.roomId m.entity)
      m.entity (some recommendation)) := by
  cases hlast : ((records.filter q.accepts).filter fun r =>
      r.listRoom = m.list.roomId && r.content.targets m.entity).getLast? with
  | none =>
    have hnothing := List.getLast?_eq_none_iff.1 hlast
    simp only [Decision.existingKey, hlast, Option.map_none, Publication.stateKeyFor]
    refine .fresh hchange fun hne => List.filter_eq_nil_iff.2 fun r hr hon => ?_
    obtain ⟨-, hl, hk, htargets⟩ := mem_recordsOn.1 (List.mem_filter.2 ⟨hr, hon⟩)
    -- A record on the entity would have been found.
    have hin : q.lists.all (m.list.roomId ∈ ·) = true := by
      cases hq : q.lists with
      | none => rfl
      | some lists => simpa using hlists lists hq
    have hconcerns := PolicyContent.concerns_of_targets htargets (ho.rule r hr) hne q.mode
    have hfound : r ∈ (records.filter q.accepts).filter fun r =>
        r.listRoom = m.list.roomId && r.content.targets m.entity := by
      simp [List.mem_filter, hr, PolicyQuery.accepts, hk, hkind, hin, hv, hconcerns, hl, htargets]
    rw [hnothing] at hfound
    cases hfound
  | some old =>
    have hmem := List.mem_of_getLast? hlast
    simp only [List.mem_filter, Bool.and_eq_true, decide_eq_true_eq] at hmem
    obtain ⟨⟨hold, haccepts⟩, hl, htargets⟩ := hmem
    have hne : old.stateKey.isEmpty = false := by
      simpa [String.isEmpty_iff] using ho.key_ne_empty old hold
    simp only [Decision.existingKey, hlast, Option.map_some, Publication.stateKeyFor, hne,
      Bool.false_eq_true, if_false]
    exact .existing (mem_recordsOn.2 ⟨hold, hl, (q.kind_eq haccepts).trans hkind, htargets⟩)

/-- A rule is placed. -/
theorem placed_rule (hlists : ∀ lists ∈ q.lists, m.list.roomId ∈ lists)
    {recommendation : Recommendation}
    (hchange : m.change.recommendation? = some recommendation) (reason : String) {hashed : Bool}
    (hhashed : hashed = true → m.entity ≠ "") :
    m.Placed records (.rule m.entity recommendation reason hashed
      (Decision.existingKey (records.filter q.accepts) m.list.roomId m.entity)) where
  recommends := hchange.symm
  about := by
    intro _
    cases hashed with
    | false => exact .inl ⟨rfl, rfl⟩
    | true => exact .inr ⟨rfl, hhashed rfl, rfl⟩
  tombstone := fun htomb => Bool.noConfusion htomb
  place := place_rule ho hkind hv hlists hchange

/-- A tombstone is placed if a query for its list finds the record that it is for. -/
theorem placed_removal {kind : RemovalKind} (hchange : m.change = .remove kind)
    (hlists : q.lists = some [m.list.roomId]) (hmode : q.mode = .exact) {old : PolicyRecord}
    (hold : old ∈ records.filter q.accepts) :
    m.Placed records (.removal m.entity (some old.stateKey)) where
  recommends := by rw [hchange]; rfl
  about := fun hrule => Bool.noConfusion hrule
  tombstone := fun _ => rfl
  place := by
    obtain ⟨hmem, haccepts⟩ := List.mem_filter.1 hold
    have hcond : old.kind = m.kind ∧ old.listRoom = m.list.roomId ∧
        old.content.concerns .exact m.entity = true := by
      simpa [PolicyQuery.accepts, hkind, hv, hlists, hmode, and_assoc] using haccepts
    obtain ⟨hk, hl, hconcerns⟩ := hcond
    have hne : old.stateKey.isEmpty = false := by
      simpa [String.isEmpty_iff] using ho.key_ne_empty old hmem
    simp only [Publication.removal, Publication.stateKeyFor, hne, Bool.false_eq_true, if_false]
    exact .existing (mem_recordsOn.2 ⟨hmem, hl, hk, PolicyContent.targets_of_concerns hconcerns⟩)

end

/-- **Whatever an issued mutation plans is placed.** -/
theorem placed_of_plan {σ : Type} {ctx : Context σ} {store : Store}
    (hs : store.records? = some records) (ho : Orderly records) (hm : m.Issued ctx)
    (hp : m.plan ctx.watched store = .ok p) : m.Placed records p := by
  rw [plan, Store.find_eq_filter hs] at hp
  unfold decide query at hp
  cases hc : m.change with
  | ban recommendation reason hashed =>
    simp only [hc] at hp
    obtain ⟨reuse, hok, rfl⟩ := exists_of_map_ok hp
    rw [eq_existingKey (.inl hok)]
    exact placed_rule ho rfl rfl hm.scope (by rw [hc]; rfl) reason
      fun _ => hm.entity_ne_empty (by simp [hc])
  | reportBan reason =>
    simp only [hc] at hp
    obtain ⟨reuse, hok, rfl⟩ := exists_of_map_ok hp
    rw [eq_existingKey (.inr (.inl hok))]
    exact placed_rule ho (hm.kind_of_report hc).symm rfl hm.scope (by rw [hc]; rfl) reason (by simp)
  | unban reason =>
    simp only [hc] at hp
    obtain ⟨reuse, hok, rfl⟩ := exists_of_map_ok hp
    rw [eq_existingKey (.inr (.inr hok))]
    exact placed_rule ho rfl rfl hm.scope (by rw [hc]; rfl) reason (by simp)
  | remove kind =>
    simp only [hc] at hp
    obtain ⟨key, hok, rfl⟩ := exists_of_map_ok hp
    obtain ⟨old, hold, rfl⟩ := mem_of_removal hok
    exact placed_removal ho rfl rfl hc rfl rfl hold

/-! ## What becomes of the records -/

theorem Place.key_ne_empty (ho : Orderly records) {key : String} (h : m.Place records key) :
    key ≠ "" := by
  cases h with
  | existing hold => exact ho.key_ne_empty _ (mem_recordsOn.1 hold).1
  | fresh => exact derivedStateKey_ne_empty _ _

namespace Placed

variable (h : m.Placed records p) (ho : Orderly records) (sender : String) (timestamp : Int64)
include h

/-- What a mutation that recommends something publishes is a rule. -/
theorem rule {recommendation : Recommendation}
    (hchange : m.change.recommendation? = some recommendation) : p.content.isTombstone = false := by
  rw [PolicyContent.isTombstone, h.recommends, hchange]
  rfl

/-- The record of a rule is on the entity. -/
theorem isOn_record (hrule : p.content.isTombstone = false) :
    m.isOn (m.record p sender timestamp) = true := by
  simp [isOn, record, (h.about hrule).targets]

/-- A publication that is a tombstone goes over a record on the entity. -/
theorem exists_over_of_tombstone (htomb : p.content.isTombstone = true) :
    ∃ old ∈ m.recordsOn records, old.stateKey = p.stateKey := by
  obtain ⟨recommends, -, -, place⟩ := h
  generalize p.stateKey = key at place
  cases place with
  | existing hold => exact ⟨_, hold, rfl⟩
  | fresh hchange =>
    rw [PolicyContent.isTombstone, recommends, hchange] at htomb
    cases htomb

/-- So does any publication if there is such a record. -/
theorem exists_over (hne : m.entity ≠ "") (hsome : m.recordsOn records ≠ []) :
    ∃ old ∈ m.recordsOn records, old.stateKey = p.stateKey := by
  obtain ⟨-, -, -, place⟩ := h
  generalize p.stateKey = key at place
  cases place with
  | existing hold => exact ⟨_, hold, rfl⟩
  | fresh _ hnone => exact absurd (hnone hne) hsome

omit h in
theorem key_record {old : PolicyRecord} (hold : old ∈ m.recordsOn records)
    (hkey : old.stateKey = p.stateKey) : old.key = (m.record p sender timestamp).key := by
  obtain ⟨-, hl, hk, -⟩ := mem_recordsOn.1 hold
  simp only [PolicyRecord.key, record, hl, hk, hkey]

include ho

/-- **Records stay orderly** when what a mutation plans is published. -/
theorem orderly : Orderly (publishRecord (m.record p sender timestamp) records) :=
  ho.publish (h.place.key_ne_empty ho)

/-- **How many records are on the entity** after a publication: as many as there were, and at least
one, if it is a rule; and one fewer if it is a tombstone. -/
theorem length_recordsOn (hne : m.entity ≠ "") :
    if p.content.isTombstone then
      (m.recordsOn (publishRecord (m.record p sender timestamp) records)).length + 1 =
        (m.recordsOn records).length
    else
      (m.recordsOn (publishRecord (m.record p sender timestamp) records)).length =
        max (m.recordsOn records).length 1 := by
  simp only [recordsOn, ← List.countP_eq_length_filter]
  have hover {old : PolicyRecord} (hold : old ∈ m.recordsOn records)
      (hkey : old.stateKey = p.stateKey) := by
    obtain ⟨hmem, hon⟩ := List.mem_filter.1 hold
    exact countP_publishRecord_over ho.keyed hmem (key_record sender timestamp hold hkey) hon
  cases htomb : p.content.isTombstone with
  | true =>
    obtain ⟨old, hold, hkey⟩ := h.exists_over_of_tombstone htomb
    simpa [record, htomb] using hover hold hkey
  | false =>
    have hon := h.isOn_record sender timestamp htomb
    by_cases hsome : m.recordsOn records = []
    · have hnone : ∀ r ∈ records, m.isOn r = false := by
        simpa [recordsOn, List.filter_eq_nil_iff] using hsome
      have hzero : records.countP m.isOn = 0 :=
        List.countP_eq_zero.2 fun r hr => by simp [hnone r hr]
      simpa [hzero] using countP_publishRecord_first ho.keyed htomb hon hnone
    · obtain ⟨old, hold, hkey⟩ := h.exists_over hne hsome
      have hpos : 0 < records.countP m.isOn :=
        List.countP_pos_iff.2 ⟨old, (List.mem_filter.1 hold).1, (List.mem_filter.1 hold).2⟩
      have hcount := hover hold hkey
      rw [hon, if_pos rfl, if_neg (by simpa [record] using htomb)] at hcount
      simp only [Bool.false_eq_true, if_false]
      omega

/-- **Other records stay**, except for one that is displaced. -/
theorem mem_or_displaces {r : PolicyRecord} (hr : r ∈ records) (hnot : m.isOn r = false) :
    r ∈ publishRecord (m.record p sender timestamp) records ∨ m.Displaces records r := by
  by_cases hkey : r.key = (m.record p sender timestamp).key
  · refine .inr ?_
    have hplace := h.place
    have hstate : r.key = (m.list.roomId, m.kind, p.stateKey) := hkey
    generalize p.stateKey = key at hplace hstate
    cases hplace with
    | @existing old hold =>
      -- The record under that key is on the entity, and there is no other under it.
      obtain ⟨hmem, hl, hk, -⟩ := mem_recordsOn.1 hold
      have heq : r = old := List.inj_on_of_nodup_map ho.keyed hr hmem
        (hstate.trans (by simp only [PolicyRecord.key, hl, hk]))
      rw [heq, (List.mem_filter.1 hold).2] at hnot
      cases hnot
    | fresh hchange hnone => exact ⟨_, hchange, hnone, hstate⟩
  · exact .inl ((mem_publishRecord ho.keyed).2 (.inl ⟨hr, hkey⟩))

/-- **A rule that has no record to take over** goes under the derived key, and takes the place of
what stands there. -/
theorem replaces {recommendation : Recommendation}
    (hchange : m.change.recommendation? = some recommendation)
    (hnone : m.recordsOn records = []) :
    p.stateKey = derivedStateKey m.entity (some recommendation) ∧
      m.record p sender timestamp ∈ publishRecord (m.record p sender timestamp) records ∧
      ∀ r ∈ records, r.key = (m.list.roomId, m.kind, p.stateKey) →
        r ∉ publishRecord (m.record p sender timestamp) records := by
  have hrule := h.rule hchange
  refine ⟨?_, (mem_publishRecord ho.keyed).2 (.inr ⟨rfl, hrule⟩), fun r hr hkey hstays => ?_⟩
  · have hplace := h.place
    generalize p.stateKey = key at hplace
    cases hplace with
    | existing hold =>
      rw [hnone] at hold
      cases hold
    | fresh hchange' =>
      obtain rfl := Option.some.inj (hchange.symm.trans hchange')
      rfl
  · rcases (mem_publishRecord ho.keyed).1 hstays with ⟨-, hother⟩ | ⟨rfl, -⟩
    · exact hother hkey
    · -- The rule itself is on the entity, so it did not stand there before.
      have hon : m.record p sender timestamp ∈ m.recordsOn records :=
        List.mem_filter.2 ⟨hr, h.isOn_record sender timestamp hrule⟩
      rw [hnone] at hon
      cases hon

end Placed
end Mutation
end Moderation

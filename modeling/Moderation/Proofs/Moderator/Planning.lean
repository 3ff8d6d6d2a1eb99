import Moderation.Proofs.Moderator.Requests
import Moderation.Proofs.Policy.Summary
import Moderation.Proofs.Policy.Tidy
import Moderation.Proofs.Store.Contents
/-!
# What is planned keeps records tidy

A publication **fits** the records of a store (`Mutation.Fits`) when it goes under a key of its
entity, is a tombstone or a rule of its entity, and goes where the rule of its entity stands, if
there is one.  What an issued mutation plans with a tidy store fits (`Mutation.fits_of_plan`); a
publication that fits keeps the store tidy (`Mutation.Fits.tidy`), and it goes on to fit while
others publish about other entities or in other lists (`Mutation.Fits.publish`).
-/

namespace Moderation
namespace Mutation

/-- What is recorded of a publication is published to the records of a store; remembering an entity
does not show. -/
theorem records?_recordIn {store : Store} {records : List PolicyRecord}
    (hs : store.records? = some records)
    (hk : Keyed records) (m : Mutation) (p : Publication) (sender : String) (timestamp : Int64) :
    (m.recordIn p sender timestamp store).records? =
      some (publishRecord (m.record p sender timestamp) records) := by
  unfold recordIn
  split
  · rw [Store.records?_remember, Store.records?_publish hs hk]
  · exact Store.records?_publish hs hk _

/-- A publication fits some records. -/
structure Fits (m : Mutation) (records : List PolicyRecord) (p : Publication) : Prop where
  key : ∃ recommendation, p.stateKey = derivedStateKey m.entity (some recommendation)
  about : p.content.isTombstone = false → p.content.IsAbout m.entity
  reuse : m.entity ≠ "" → ∀ r ∈ records, r.IsOf m.entity → r.listRoom = m.list.roomId →
    r.kind = m.kind →
    r.stateKey = p.stateKey

variable {m : Mutation} {records : List PolicyRecord} {p : Publication}

/-- What a mutation publishes is a record of its entity. -/
theorem Fits.isOf (h : m.Fits records p) (hrule : p.content.isTombstone = false) (sender : String)
    (timestamp : Int64) :
    (m.record p sender timestamp).IsOf m.entity :=
  ⟨h.key, h.about hrule, hrule⟩

section
variable {entities : List String} (hcf : CollisionFree (entities.flatMap hashedTexts))
  (ht : Tidy entities records)
include hcf ht

/-- A publication that fits keeps records tidy. -/
theorem Fits.tidy (h : m.Fits records p) (he : m.entity ∈ entities) (sender : String)
    (timestamp : Int64) :
    Tidy entities (publishRecord (m.record p sender timestamp) records) := by
  refine ht.publish hcf he (fun hrule => h.isOf hrule sender timestamp) fun hne r hr hof hl hk => ?_
  simp only [PolicyRecord.key, record, hl, hk, h.reuse hne r hr hof hl hk]

/-- A publication goes on to fit when another mutation publishes, about another entity or in another
list. -/
theorem Fits.publish {m' : Mutation} {p' : Publication} (h : m.Fits records p)
    (h' : m'.Fits records p')
    (he : m.entity ∈ entities) (he' : m'.entity ∈ entities)
    (hother : m.list.roomId = m'.list.roomId → m.entity ≠ m'.entity) (sender : String)
    (timestamp : Int64) :
    m.Fits (publishRecord (m'.record p' sender timestamp) records) p where
  key := h.key
  about := h.about
  reuse := by
    intro hne r hr hof hl hk
    rcases (mem_publishRecord ht.keyed).1 hr with ⟨hr, -⟩ | ⟨rfl, hrule⟩
    · exact h.reuse hne r hr hof hl hk
    · have heq : m.entity = m'.entity := hof.unique hcf (h'.isOf hrule sender timestamp) he he' rfl
      exact absurd heq (hother hl.symm)

end

/-! ## What is taken over -/

theorem exists_of_map_ok {ε α β : Type} {f : α → β} {x : Except ε α} {b : β} (h : x.map f = .ok b) :
    ∃ a, x = .ok a ∧ b = f a := by
  cases x with
  | error e => cases h
  | ok a => exact ⟨a, rfl, (Except.ok.inj h).symm⟩

/-- A ban, an unban and a ban by a report all take over the key of the rule that is there, if they
go ahead. -/
theorem eq_existingKey {found : List PolicyRecord} {list entity : String} {reuse : Option String}
    (h : Decision.ban found list entity = .ok reuse ∨
      Decision.reportBan found list entity = .ok reuse ∨
      Decision.unban found list entity = .ok reuse) :
    reuse = Decision.existingKey found list entity := by
  rcases h with h | h | h
  · unfold Decision.ban at h
    split at h
    · cases h
    · exact (Except.ok.inj h).symm
  · unfold Decision.reportBan at h
    split at h
    · cases h
    · exact (Except.ok.inj h).symm
  · unfold Decision.unban at h
    split at h
    · cases h
    · exact (Except.ok.inj h).symm

/-- The key of a rule is taken over as it is, not being empty. -/
theorem stateKeyFor_isOf {r : PolicyRecord} {e : String} (h : r.IsOf e) (entity : String)
    (recommendation : Option Recommendation) :
    Publication.stateKeyFor (some r.stateKey) entity recommendation = r.stateKey := by
  obtain ⟨_, hk⟩ := h.key
  have hne : r.stateKey.isEmpty = false := by
    rw [hk]
    simpa [String.isEmpty_iff] using derivedStateKey_ne_empty e _
  simp [Publication.stateKeyFor, hne]

/-- The rule that a removal looks at is one of those that were found. -/
theorem mem_of_removal {found : List PolicyRecord} {entity key : String} {kind : RemovalKind}
    (h : Decision.removal found entity kind = .ok key) : ∃ r ∈ found, r.stateKey = key := by
  unfold Decision.removal at h
  split at h
  · cases h
  · next r hr =>
    refine ⟨r, ?_, ?_⟩
    · rcases Option.or_eq_some_iff.1 hr with hr | ⟨-, hr⟩
      · exact PolicySummary.mem_of_deciding hr
      · exact List.mem_of_head? hr
    · split at h
      · split at h
        · exact Except.ok.inj h
        · cases h
      · exact Except.ok.inj h

section
variable {entities : List String} (hcf : CollisionFree (entities.flatMap hashedTexts))
  (ht : Tidy entities records)
  (he : m.entity ∈ entities)
include hcf ht he

/-- A record that a query of the mutation finds, and that is on its entity, is of its entity. -/
theorem isOf_of_accepts {q : PolicyQuery} (hv : q.value = m.entity) {r : PolicyRecord}
    (hr : r ∈ records)
    (ha : q.accepts r = true) (htargets : r.content.targets m.entity = true) : r.IsOf m.entity := by
  obtain ⟨e, hmem, hof⟩ := ht.owned r hr
  simp only [PolicyQuery.accepts, Bool.and_eq_true, hv] at ha
  exact hof.eq_of_concerns hcf hmem he ha.2 htargets ▸ hof

/-- The key that is taken over is that of the rule of the entity. -/
theorem exists_isOf_of_existingKey {q : PolicyQuery} (hkind : q.kind = m.kind)
    (hv : q.value = m.entity) {key : String}
    (h : Decision.existingKey (records.filter q.accepts) m.list.roomId m.entity = some key) :
    ∃ r ∈ records, r.IsOf m.entity ∧ r.listRoom = m.list.roomId ∧ r.kind = m.kind ∧
      r.stateKey = key := by
  obtain ⟨r, hlast, hkey⟩ := Option.map_eq_some_iff.1 h
  have hmem := List.mem_of_getLast? hlast
  simp only [List.mem_filter, Bool.and_eq_true, decide_eq_true_eq] at hmem
  obtain ⟨⟨hr, ha⟩, hl, htargets⟩ := hmem
  exact ⟨r, hr, isOf_of_accepts hcf ht he hv hr ha htargets, hl, hkind ▸ q.kind_eq ha, hkey⟩

/-- Where there is a rule of the entity its key is taken over. -/
theorem existingKey_of_isOf {q : PolicyQuery} (hkind : q.kind = m.kind) (hv : q.value = m.entity)
    (hlists : ∀ lists ∈ q.lists, m.list.roomId ∈ lists) (hne : m.entity ≠ "") {r : PolicyRecord}
    (hr : r ∈ records)
    (hof : r.IsOf m.entity) (hl : r.listRoom = m.list.roomId) (hk : r.kind = m.kind) :
    Decision.existingKey (records.filter q.accepts) m.list.roomId m.entity = some r.stateKey := by
  have haccepts : q.accepts r = true := by
    have hin : q.lists.all (r.listRoom ∈ ·) = true := by
      rw [hl]
      cases hq : q.lists with
      | none => rfl
      | some lists => simpa using hlists lists hq
    have hconcerns := hof.about.concerns hof.rule hne q.mode
    simp [PolicyQuery.accepts, hk, hkind, hin, hv, hconcerns]
  have hmem : r ∈ (records.filter q.accepts).filter fun r =>
      r.listRoom = m.list.roomId && r.content.targets m.entity := by
    simp [List.mem_filter, hr, haccepts, hl, hof.about.targets]
  -- The rule is found, so the key of something is taken over; and that can only be the rule, being
  -- the single one.
  cases hlast : ((records.filter q.accepts).filter fun r =>
      r.listRoom = m.list.roomId && r.content.targets m.entity).getLast? with
  | none => rw [List.getLast?_eq_none_iff.1 hlast] at hmem; cases hmem
  | some p =>
    have hkey : Decision.existingKey (records.filter q.accepts) m.list.roomId m.entity =
        some p.stateKey := by
      simp only [Decision.existingKey, hlast, Option.map_some]
    obtain ⟨s, hs, hsof, hsl, hsk, hskey⟩ := exists_isOf_of_existingKey hcf ht he hkind hv hkey
    have heq : s = r := ht.single _ he hne s hs r hr hsof hof (hsl.trans hl.symm)
      (hsk.trans hk.symm)
    rw [hkey, ← hskey, heq]

/-- A rule that takes over what is there fits. -/
theorem fits_rule {q : PolicyQuery} (hkind : q.kind = m.kind) (hv : q.value = m.entity)
    (hlists : ∀ lists ∈ q.lists, m.list.roomId ∈ lists) (recommendation : Recommendation)
    (reason : String) {hashed : Bool} (hhashed : hashed = true → m.entity ≠ "") :
    m.Fits records (.rule m.entity recommendation reason hashed
      (Decision.existingKey (records.filter q.accepts) m.list.roomId m.entity)) where
  key := by
    cases hreuse : Decision.existingKey (records.filter q.accepts) m.list.roomId m.entity with
    | none => exact ⟨recommendation, rfl⟩
    | some key =>
      obtain ⟨r, -, hof, -, -, rfl⟩ := exists_isOf_of_existingKey hcf ht he hkind hv hreuse
      obtain ⟨derived, hk⟩ := hof.key
      exact ⟨derived, (stateKeyFor_isOf hof _ _).trans hk⟩
  about := by
    intro _
    cases hashed with
    | false => exact .inl ⟨rfl, rfl⟩
    | true => exact .inr ⟨rfl, hhashed rfl, rfl⟩
  reuse := by
    intro hne r hr hof hl hk
    rw [existingKey_of_isOf hcf ht he hkind hv hlists hne hr hof hl hk]
    exact (stateKeyFor_isOf hof _ _).symm

omit hcf in
/-- A tombstone for the rule of the entity fits. -/
theorem fits_removal {r : PolicyRecord} (hr : r ∈ records) (hof : r.IsOf m.entity)
    (hl : r.listRoom = m.list.roomId)
    (hk : r.kind = m.kind) : m.Fits records (.removal m.entity (some r.stateKey)) where
  key := by
    obtain ⟨derived, hk⟩ := hof.key
    exact ⟨derived, (stateKeyFor_isOf hof _ _).trans hk⟩
  about := fun hrule => Bool.noConfusion hrule
  reuse := by
    intro hne p hp hpof hpl hpk
    have heq : p = r := ht.single _ he hne p hp r hr hpof hof (hpl.trans hl.symm)
      (hpk.trans hk.symm)
    rw [heq]
    exact (stateKeyFor_isOf hof _ _).symm

end

/-- **What an issued mutation plans with a tidy store fits.** -/
theorem fits_of_plan {σ : Type} {ctx : Context σ} {entities : List String} {store : Store}
    (hcf : CollisionFree (entities.flatMap hashedTexts)) (hs : store.records? = some records)
    (ht : Tidy entities records) (he : m.entity ∈ entities) (hm : m.Issued ctx)
    (hp : m.plan ctx.watched store = .ok p) : m.Fits records p := by
  rw [plan, Store.find_eq_filter hs] at hp
  unfold decide query at hp
  -- A removal takes its record from its own list and matches exactly; the others look in every list
  -- that is watched.
  match hc : m.change with
  | .ban recommendation reason hashed =>
    simp only [hc] at hp
    obtain ⟨reuse, hok, rfl⟩ := exists_of_map_ok hp
    rw [eq_existingKey (.inl hok)]
    exact fits_rule hcf ht he rfl rfl hm.scope recommendation reason
      fun _ => hm.entity_ne_empty (by simp [hc])
  | .reportBan reason =>
    simp only [hc] at hp
    obtain ⟨reuse, hok, rfl⟩ := exists_of_map_ok hp
    rw [eq_existingKey (.inr (.inl hok))]
    exact fits_rule hcf ht he (hm.kind_of_report hc).symm rfl hm.scope .ban reason (by simp)
  | .unban reason =>
    simp only [hc] at hp
    obtain ⟨reuse, hok, rfl⟩ := exists_of_map_ok hp
    rw [eq_existingKey (.inr (.inr hok))]
    exact fits_rule hcf ht he rfl rfl hm.scope .unban reason (by simp)
  | .remove kind =>
    simp only [hc] at hp
    obtain ⟨key, hok, rfl⟩ := exists_of_map_ok hp
    obtain ⟨r, hr, rfl⟩ := mem_of_removal hok
    obtain ⟨hr, ha⟩ := List.mem_filter.1 hr
    have hcond : r.kind = m.kind ∧ r.listRoom = m.list.roomId ∧
        r.content.concerns .exact m.entity = true := by
      simpa [PolicyQuery.accepts, and_assoc] using ha
    obtain ⟨hk, hl, hconcerns⟩ := hcond
    have hof := isOf_of_accepts hcf ht he rfl hr ha (PolicyContent.targets_of_concerns hconcerns)
    exact fits_removal ht he hr hof hl hk

end Mutation
end Moderation

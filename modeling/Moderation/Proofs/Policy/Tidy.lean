import Moderation.Proofs.Policy.StateKey
import Moderation.Proofs.Store.Publishing
/-!
# Tidy records

The bot writes a rule about an entity in one of two ways, openly or behind the digest of the entity,
and under a key that is derived from the entity: such a record is **of** that entity
(`PolicyRecord.IsOf`).  Records are **tidy** (`Tidy`) when each of them is of some entity and no
list has two of one kind that are of the same one.

What publishing needs so that records stay tidy is that the new record takes over the key of the one
that is there, if there is one (`Tidy.publish`).  Records that are tidy hold at most one in a list
and of a kind that is on an entity, be it named or hidden (`Tidy.length_filter_le_one`).
-/

namespace Moderation

namespace PolicyContent

/-- A content is about an entity the way the bot writes it: it names the entity and no digest, or
hides an entity that is not empty behind its digest. -/
def IsAbout (c : PolicyContent) (entity : String) : Prop :=
  (c.entity = entity ∧ c.hashes = none) ∨
    (c.entity = "" ∧ entity ≠ "" ∧ c.sha256 = some (Entity.pseudonym entity))

theorem concerns_eq_true {c : PolicyContent} {mode : MatchMode} {value : String}
    (h : c.concerns mode value = true) :
    c.isTombstone = false ∧ (c.entity = "" → c.sha256 = some (Entity.pseudonym value)) := by
  unfold concerns at h
  split at h
  · cases h
  · next ht =>
    refine ⟨by simpa using ht, fun he => ?_⟩
    simpa [he] using h

/-- A content that an exact query finds is on the value. -/
theorem targets_of_concerns {c : PolicyContent} {value : String}
    (h : c.concerns .exact value = true) :
    c.targets value = true := by
  unfold concerns at h
  unfold targets
  split at h
  · cases h
  · split at h
    · next he => simp_all
    · split at h
      · next he => simp [he]
      · cases h

theorem IsAbout.concerns {c : PolicyContent} {entity : String} (h : c.IsAbout entity)
    (hrule : c.isTombstone = false)
    (hne : entity ≠ "") (mode : MatchMode) : c.concerns mode entity = true := by
  rcases h with ⟨rfl, -⟩ | ⟨he, -, hs⟩
  · simp [PolicyContent.concerns, hrule, hne]
  · simp [PolicyContent.concerns, hrule, he, hs]

theorem IsAbout.targets {c : PolicyContent} {entity : String} (h : c.IsAbout entity) :
    c.targets entity = true := by
  rcases h with ⟨rfl, -⟩ | ⟨he, -, hs⟩
  · simp [PolicyContent.targets]
  · simp [PolicyContent.targets, he, hs]

/-- What a content is about and what it is on have one digest. -/
theorem IsAbout.digest_eq {c : PolicyContent} {entity other : String} (h : c.IsAbout entity)
    (ht : c.targets other = true) (hne : other ≠ "") : sha256Text entity = sha256Text other := by
  simp only [PolicyContent.targets, Bool.or_eq_true, Bool.and_eq_true, decide_eq_true_eq,
    String.isEmpty_iff] at ht
  rcases h with ⟨rfl, hh⟩ | ⟨he, -, hs⟩
  · rcases ht with rfl | ⟨-, hs⟩
    · rfl
    · simp [sha256, hh] at hs
  · rcases ht with rfl | ⟨-, ht⟩
    · exact absurd he hne
    · exact digest_eq_of_pseudonym_eq (Option.some.inj (hs.symm.trans ht))

end PolicyContent

/-- A record is of an entity: it is a rule about the entity, under a key that is derived from the
entity. -/
structure PolicyRecord.IsOf (r : PolicyRecord) (entity : String) : Prop where
  key : ∃ recommendation, r.stateKey = derivedStateKey entity (some recommendation)
  about : r.content.IsAbout entity
  rule : r.content.isTombstone = false

/-- Records are tidy: each is of one of some entities, and no list has two of one kind that are of
the same one. -/
structure Tidy (entities : List String) (records : List PolicyRecord) : Prop where
  keyed : Keyed records
  owned : ∀ r ∈ records, ∃ e ∈ entities, r.IsOf e
  single : ∀ e ∈ entities, e ≠ "" → ∀ r ∈ records, ∀ r' ∈ records, r.IsOf e → r'.IsOf e →
    r.listRoom = r'.listRoom → r.kind = r'.kind → r = r'

theorem tidy_nil (entities : List String) : Tidy entities [] where
  keyed := List.nodup_nil
  owned := by simp
  single := by simp

section
variable {entities : List String} (hcf : CollisionFree (entities.flatMap hashedTexts))
include hcf

/-- A record is of one entity only: its key says which. -/
theorem PolicyRecord.IsOf.unique {r r' : PolicyRecord} {e e' : String} (h : r.IsOf e)
    (h' : r'.IsOf e')
    (he : e ∈ entities) (he' : e' ∈ entities) (hk : r.stateKey = r'.stateKey) : e = e' := by
  obtain ⟨_, hr⟩ := h.key
  obtain ⟨_, hr'⟩ := h'.key
  exact (derivedStateKey_inj hcf he he' (hr.symm.trans (hk.trans hr'))).1

/-- A record that answers a query and is on its value is of the value. -/
theorem PolicyRecord.IsOf.eq_of_concerns {r : PolicyRecord} {e value : String} {mode : MatchMode}
    (h : r.IsOf e)
    (he : e ∈ entities) (hv : value ∈ entities) (hc : r.content.concerns mode value = true)
    (ht : r.content.targets value = true) : e = value := by
  obtain ⟨-, hempty⟩ := PolicyContent.concerns_eq_true hc
  rcases h.about with ⟨rfl, hh⟩ | ⟨hentity, -, hs⟩
  · simp only [PolicyContent.targets, Bool.or_eq_true, Bool.and_eq_true, decide_eq_true_eq] at ht
    rcases ht with heq | ⟨-, hs⟩
    · exact heq
    · simp [PolicyContent.sha256, hh] at hs
  · have hp : Entity.pseudonym e = Entity.pseudonym value :=
      Option.some.inj (hs.symm.trans (hempty hentity))
    exact eq_of_digest_eq hcf he hv (digest_eq_of_pseudonym_eq hp)

/-- **Records stay tidy** when a rule of an entity, or a tombstone, goes where the rule of that
entity was. -/
theorem Tidy.publish {records : List PolicyRecord} (h : Tidy entities records) {r : PolicyRecord}
    {e : String} (he : e ∈ entities) (hr : r.content.isTombstone = false → r.IsOf e)
    (hreuse : e ≠ "" → ∀ p ∈ records, p.IsOf e → p.listRoom = r.listRoom → p.kind = r.kind →
      p.key = r.key) :
    Tidy entities (publishRecord r records) where
  keyed := keyed_publishRecord r h.keyed
  owned := by
    intro p hp
    rcases (mem_publishRecord h.keyed).1 hp with ⟨hp, -⟩ | ⟨rfl, hrule⟩
    · exact h.owned p hp
    · exact ⟨e, he, hr hrule⟩
  single := by
    -- The new record and an old one are of one entity only if the old one had to give way.
    have apart {e' : String} (he' : e' ∈ entities) (hne : e' ≠ "") {p : PolicyRecord}
        (hp : p ∈ records) (hpk : p.key ≠ r.key) (hrule : r.content.isTombstone = false)
        (hof : p.IsOf e') (hrof : r.IsOf e')
        (hl : p.listRoom = r.listRoom) (hk : p.kind = r.kind) : False := by
      obtain rfl : e' = e := hrof.unique hcf (hr hrule) he' he rfl
      exact hpk (hreuse hne p hp hof hl hk)
    intro e' he' hne p hp q hq hpof hqof hl hk
    rcases (mem_publishRecord h.keyed).1 hp with ⟨hpold, hpk⟩ | ⟨hpr, hrule⟩ <;>
      rcases (mem_publishRecord h.keyed).1 hq with ⟨hqold, hqk⟩ | ⟨hqr, hrule'⟩
    · exact h.single e' he' hne p hpold q hqold hpof hqof hl hk
    · subst hqr
      exact (apart he' hne hpold hpk hrule' hpof hqof hl hk).elim
    · subst hpr
      exact (apart he' hne hqold hqk hrule hqof hpof hl.symm hk.symm).elim
    · rw [hpr, hqr]

/-- Two tidy records of one list and kind that are on one entity are the same. -/
theorem Tidy.eq_of_targets {records : List PolicyRecord} (h : Tidy entities records)
    {p q : PolicyRecord} {e : String}
    (hne : e ≠ "") (hp : p ∈ records) (hq : q ∈ records) (hl : p.listRoom = q.listRoom)
    (hk : p.kind = q.kind)
    (hpt : p.content.targets e = true) (hqt : q.content.targets e = true) : p = q := by
  obtain ⟨a, ha, hpof⟩ := h.owned p hp
  obtain ⟨b, hb, hqof⟩ := h.owned q hq
  have hpd := hpof.about.digest_eq hpt hne
  have hqd := hqof.about.digest_eq hqt hne
  obtain rfl : a = b := eq_of_digest_eq hcf ha hb (hpd.trans hqd.symm)
  refine h.single a ha ?_ p hp q hq hpof hqof hl hk
  rintro rfl
  -- A content about the empty text names nothing and hides nothing, so it is on nothing.
  rcases hpof.about with ⟨hentity, hh⟩ | ⟨-, hempty, -⟩
  · simp [PolicyContent.targets, hentity, hne.symm, PolicyContent.sha256, hh] at hpt
  · exact hempty rfl

/-- **Tidy records hold at most one of a list and a kind that is on an entity.** -/
theorem Tidy.length_filter_le_one {records : List PolicyRecord} (h : Tidy entities records)
    (list : String) (kind : EntityKind) {e : String} (hne : e ≠ "") :
    (records.filter fun r =>
      r.listRoom = list && r.kind = kind && r.content.targets e).length ≤ 1 := by
  have hnodup : (records.filter fun r =>
      r.listRoom = list && r.kind = kind && r.content.targets e).Nodup :=
    h.keyed.nodup.filter _
  match hf : records.filter fun r => r.listRoom = list && r.kind = kind && r.content.targets e with
  | [] => simp [hf]
  | [_] => simp [hf]
  | p :: q :: rest =>
    have hmem {r : PolicyRecord} (hr : r ∈ p :: q :: rest) :
        r ∈ records ∧ r.listRoom = list ∧ r.kind = kind ∧ r.content.targets e = true := by
      rw [← hf] at hr
      simpa [and_assoc] using hr
    obtain ⟨hp, hpl, hpk, hpt⟩ := hmem List.mem_cons_self
    obtain ⟨hq, hql, hqk, hqt⟩ := hmem (List.mem_cons_of_mem p List.mem_cons_self)
    have heq : p = q := h.eq_of_targets hcf hne hp hq (hpl.trans hql.symm)
      (hpk.trans hqk.symm) hpt hqt
    rw [hf, heq] at hnodup
    simp at hnodup

end
end Moderation

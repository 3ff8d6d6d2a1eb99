import Mathlib.Data.List.Nodup
import Moderation.Policy.Publication
import Moderation.Proofs.Digest.Base64
/-!
# State keys tell rules apart

A derived state key is the digest of an entity and a tag, written one after the other with nothing
between them.  No tag ends in another, so the two can be told apart all the same (`tagged_inj`), and
where no two of the texts that are hashed have one digest, neither do two rules have one key
(`derivedStateKey_unambiguous`, and `derivedStateKey_inj` for the rules of a run) nor two entities
one digest (`eq_of_digest_eq`).

That SHA-256 has no collisions at all is false, there being more texts than digests.  What is
assumed is that it has none among some texts (`CollisionFree`), namely those that are hashed in a
run.
-/

namespace Moderation

/-- No two of some texts have one digest. -/
def CollisionFree (texts : List String) : Prop :=
  ∀ s ∈ texts, ∀ t ∈ texts, sha256Text s = sha256Text t → s = t

instance (texts : List String) : Decidable (CollisionFree texts) := by
  unfold CollisionFree; infer_instance

/-- Texts whose digests begin with different bytes have different digests. -/
theorem collisionFree_of_nodup {texts : List String}
    (h : (texts.map fun t => (sha256Text t)[0]).Nodup) : CollisionFree texts := by
  intro s hs t ht heq
  exact List.inj_on_of_nodup_map h hs ht (congrArg (·[0]) heq)

theorem CollisionFree.mono {texts more : List String} (h : CollisionFree more)
    (hsub : ∀ t ∈ texts, t ∈ more) :
    CollisionFree texts :=
  fun s hs t ht => h s (hsub s hs) t (hsub t ht)

namespace Recommendation

/-- Every recommendation. -/
def all : List Recommendation := [.ban, .unban, .takedown]

theorem mem_all (r : Recommendation) : r ∈ all := by cases r <;> decide

/-- No tag ends in the tag of another recommendation. -/
theorem eq_of_tag_suffix {r s : Recommendation} (h : r.tag.toList <:+ s.tag.toList) : r = s := by
  cases r <;> cases s <;> first | rfl | exact absurd h (by decide)

end Recommendation

/-- An entity and a tag in one text. -/
def tagged (entity : String) (r : Recommendation) : String := entity ++ r.tag

theorem tagged_inj {e e' : String} {r r' : Recommendation} (h : tagged e r = tagged e' r') :
    e = e' ∧ r = r' := by
  have hl : e.toList ++ r.tag.toList = e'.toList ++ r'.tag.toList := by
    simpa [tagged] using congrArg String.toList h
  have hr : r = r' := by
    have hs : r.tag.toList <:+ e'.toList ++ r'.tag.toList := ⟨e.toList, hl⟩
    rcases List.suffix_or_suffix_of_suffix hs (List.suffix_append _ _) with h | h
    · exact Recommendation.eq_of_tag_suffix h
    · exact (Recommendation.eq_of_tag_suffix h).symm
  subst hr
  exact ⟨String.toList_inj.1 (List.append_cancel_right hl), rfl⟩

/-- The texts about an entity that are hashed: the entity, for its pseudonym, and the entity with
each tag, for the keys of its rules. -/
def hashedTexts (entity : String) : List String := entity :: Recommendation.all.map (tagged entity)

/-- The texts about two users have different digests. -/
theorem collisionFree_hashedTexts_users :
    CollisionFree (["@a:b", "@c:d"].flatMap hashedTexts) := by
  refine collisionFree_of_nodup ?_
  -- One digest at a time, so that each is worked out once.
  have h₁ : (sha256Text "@a:b")[0] = 33 := by decide +kernel
  have h₂ : (sha256Text (tagged "@a:b" .ban))[0] = 23 := by decide +kernel
  have h₃ : (sha256Text (tagged "@a:b" .unban))[0] = 202 := by decide +kernel
  have h₄ : (sha256Text (tagged "@a:b" .takedown))[0] = 71 := by decide +kernel
  have h₅ : (sha256Text "@c:d")[0] = 206 := by decide +kernel
  have h₆ : (sha256Text (tagged "@c:d" .ban))[0] = 188 := by decide +kernel
  have h₇ : (sha256Text (tagged "@c:d" .unban))[0] = 143 := by decide +kernel
  have h₈ : (sha256Text (tagged "@c:d" .takedown))[0] = 58 := by decide +kernel
  simp [hashedTexts, Recommendation.all, h₁, h₂, h₃, h₄, h₅, h₆, h₇, h₈]

/-- The texts about one user have different digests. -/
theorem collisionFree_hashedTexts_user : CollisionFree (hashedTexts "@a:b") :=
  collisionFree_hashedTexts_users.mono (List.subset_append_left _ _)

theorem digest_toList_inj {d d' : Digest} (h : d.toList = d'.toList) : d = d' :=
  Vector.toList_inj.1 h

/-- Two rules have one key if the texts that are hashed for them have one digest. -/
theorem derivedStateKey_eq_iff_digest {e e' : String} {r r' : Recommendation} :
    derivedStateKey e (some r) = derivedStateKey e' (some r') ↔
      sha256Text (tagged e r) = sha256Text (tagged e' r') :=
  ⟨fun h => digest_toList_inj (Base64.encode_injective h),
    fun h => congrArg (fun d : Digest => Base64.encode d.toList) h⟩

/-- **A derived key is that of one rule alone.**  Two entities with their recommendations have one
key just if they are the same, where the two texts that are hashed for them do not collide.  Nothing
else can make their keys agree: the entity and the tag are told apart in their text, though nothing
stands between them. -/
theorem derivedStateKey_unambiguous {e e' : String} {r r' : Recommendation}
    (hcf : CollisionFree [tagged e r, tagged e' r']) :
    derivedStateKey e (some r) = derivedStateKey e' (some r') ↔ e = e' ∧ r = r' := by
  rw [derivedStateKey_eq_iff_digest]
  constructor
  · intro h
    exact tagged_inj (hcf _ List.mem_cons_self _ (by simp) h)
  · rintro ⟨rfl, rfl⟩
    rfl

/-- The text for a user can end in the tag twice, and then the key is another than that for the user
whose text has it once. -/
theorem derivedStateKey_unambiguous_tag_twice :
    CollisionFree [tagged "@a:bm.ban" .ban, tagged "@a:b" .ban] ∧
      tagged "@a:bm.ban" .ban = tagged "@a:b" .ban ++ "m.ban" ∧
      derivedStateKey "@a:bm.ban" (some .ban) ≠ derivedStateKey "@a:b" (some .ban) := by
  have htwice : (sha256Text (tagged "@a:bm.ban" .ban))[0] = 147 := by decide +kernel
  have honce : (sha256Text (tagged "@a:b" .ban))[0] = 23 := by decide +kernel
  have hcf : CollisionFree [tagged "@a:bm.ban" .ban, tagged "@a:b" .ban] :=
    collisionFree_of_nodup (by simp [htwice, honce])
  exact ⟨hcf, rfl, fun h => absurd ((derivedStateKey_unambiguous hcf).1 h).1 (by decide)⟩

section
variable {entities : List String} (hcf : CollisionFree (entities.flatMap hashedTexts))
include hcf

theorem derivedStateKey_inj {e e' : String} {r r' : Recommendation} (he : e ∈ entities)
    (he' : e' ∈ entities)
    (h : derivedStateKey e (some r) = derivedStateKey e' (some r')) : e = e' ∧ r = r' := by
  have hd := derivedStateKey_eq_iff_digest.1 h
  have hmem {e : String} (r : Recommendation) (he : e ∈ entities) :
    tagged e r ∈ entities.flatMap hashedTexts :=
    List.mem_flatMap.2 ⟨e, he, List.mem_cons_of_mem _ (List.mem_map_of_mem r.mem_all)⟩
  exact tagged_inj (hcf _ (hmem r he) _ (hmem r' he') hd)

theorem eq_of_digest_eq {e e' : String} (he : e ∈ entities) (he' : e' ∈ entities)
    (h : sha256Text e = sha256Text e') : e = e' :=
  hcf e (List.mem_flatMap.2 ⟨e, he, List.mem_cons_self⟩) e'
    (List.mem_flatMap.2 ⟨e', he', List.mem_cons_self⟩) h

end

/-- Entities with one pseudonym have one digest. -/
theorem digest_eq_of_pseudonym_eq {e e' : String} (h : Entity.pseudonym e = Entity.pseudonym e') :
    sha256Text e = sha256Text e' :=
  digest_toList_inj (Base64.encode_injective h)

theorem derivedStateKey_ne_empty (entity : String) (r : Option Recommendation) :
    derivedStateKey entity r ≠ "" := by
  intro h
  have hd : (sha256Text (entity ++ (r.map Recommendation.tag).getD "")).toList = [] :=
    Base64.encode_injective (h.trans (by rfl))
  have hl := congrArg List.length hd
  simp at hl

end Moderation

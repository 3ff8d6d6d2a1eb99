import Moderation.Proofs.Digest.Spelling
import Moderation.Proofs.Entity
import Moderation.Proofs.Moderator.Index
import Moderation.Proofs.Moderator.Requests
/-!
# Looking up an entity or a digest

What is looked up may be an entity or a digest that stands for one.  As no text that is read as a
digest names an entity, it is never open which of the two a text is: an entity is told of as it is
(`Commands.lookUp_of_entity`), and a digest as the user behind it, if there is one
(`Commands.lookUp_of_reverse`, `Commands.lookUp_of_unknown`).  With what texts are read as digests
in the first place, this is `Commands.digests_are_told_from_entities`.
-/

namespace Moderation

variable {σ : Type}

namespace LookUp

section
variable (ctx : Context σ) (w : World σ)

/-- What is told of an entity: the rooms that a user is in, if there are any, and the rules. -/
def told (kind : EntityKind) (entity : String) : List String :=
  let rooms := if kind = .user then w.membership.roomsOf entity else []
  let rules := rulesNotice ctx (ctx.moment w.ticks).elapsed
    (w.store.find { mode := .pattern, kind, value := entity })
  if rooms.isEmpty then [rules] else [roomsNotice w.membership rooms, rules]

/-- What is said of the user behind a digest, as it was asked for. -/
def foundText (user target : String) : String := s!"Matched user `{user}` for hash `{target}`"

/-- What is said where no user is known to be behind a digest. -/
def unknownText (target : String) : String := s!"No user found for hash `{target}`"

theorem effects_describe (kind : EntityKind) (entity : String) :
    (describe ctx kind entity w).2.effects =
      w.effects ++ (told ctx w kind entity).map .notice := by
  have hnotices (rooms : List String) (rules : String) (v : World σ) :
      ((do
          if !rooms.isEmpty then Act.notice ctx (roomsNotice w.membership rooms)
          Act.notice ctx rules : Act σ Unit) v).2.effects =
        v.effects ++ (if rooms.isEmpty then [rules] else
          [roomsNotice w.membership rooms, rules]).map .notice := by
    cases rooms with
    | nil => rfl
    | cons => exact List.append_assoc v.effects [_] [_]
  exact hnotices _ _ { w with ticks := w.ticks + 1 }

end

variable {ctx : Context σ} {w : World σ} {target user : String} {digest : Digest}

theorem subject_of_reverse (hdigest : Entity.digest? target = some digest)
    (huser : w.store.reverse digest = some user) :
    subject ctx target w = (some user, w.shown ctx (foundText user target)) := by
  unfold subject
  simp only [hdigest, Act.bind_apply, Act.get_apply, huser]
  rfl

theorem subject_of_unknown (hdigest : Entity.digest? target = some digest)
    (hnone : w.store.reverse digest = none) :
    subject ctx target w = (none, w.shown ctx (unknownText target)) := by
  unfold subject
  simp only [hdigest, Act.bind_apply, Act.get_apply, hnone]
  rfl

theorem subject_of_undigested (h : Entity.digest? target = none) :
    subject ctx target w = (some target, w) := by
  unfold subject
  rw [h]
  rfl

end LookUp

namespace Commands

variable {ctx : Context σ} {w : World σ} {target user : String} {digest : Digest}
  {kind : EntityKind}

/-- An entity is told of as it is: its name is read as no digest. -/
theorem lookUp_of_entity (h : Entity.classify target = some kind) :
    lookUp ctx target w = (.ok .quiet, (LookUp.describe ctx kind target w).2) := by
  have hundigested : Entity.digest? target = none := by
    cases hdigest : Entity.digest? target with
    | none => rfl
    | some digest =>
      rw [Entity.classify_eq_none_of_digest? hdigest] at h
      cases h
  unfold lookUp classify
  simp only [Act.bind_apply, LookUp.subject_of_undigested hundigested, h]
  rfl

theorem lookUp_of_unknown (hdigest : Entity.digest? target = some digest)
    (hnone : w.store.reverse digest = none) :
    lookUp ctx target w = (.ok .quiet, w.shown ctx (LookUp.unknownText target)) := by
  unfold lookUp
  simp only [Act.bind_apply, LookUp.subject_of_unknown hdigest hnone]
  rfl

/-- A digest is told of as the user behind it, if that is an entity. -/
theorem lookUp_of_reverse (hdigest : Entity.digest? target = some digest)
    (huser : w.store.reverse digest = some user) :
    lookUp ctx target w =
      match Entity.classify user with
      | some kind => (.ok .quiet,
          (LookUp.describe ctx kind user (w.shown ctx (LookUp.foundText user target))).2)
      | none => (.error (.invalidEntity user), w.shown ctx (LookUp.foundText user target)) := by
  unfold lookUp classify
  simp only [Act.bind_apply, LookUp.subject_of_reverse hdigest huser]
  cases Entity.classify user <;> rfl

/-- **To look up a digest is to look up the user behind it**, who is named. -/
theorem handle_lookUp {message : CommandMessage} (hgate : gateOf ctx message = .pass)
    (hparse : Command.parse message.body = .ok (some (.lookUp target)))
    (hdigest : Entity.digest? target = some digest) (huser : w.store.reverse digest = some user)
    (hkind : Entity.classify user = some kind) :
    (handle ctx message w).1 = .completed ∧
      (handle ctx message w).2.effects = w.effects ++
        (LookUp.foundText user target :: LookUp.told ctx w kind user).map .notice := by
  rw [handle_of_pass hgate hparse, execute, lookUp_of_reverse hdigest huser, hkind]
  refine ⟨rfl, (LookUp.effects_describe ctx _ kind user).trans ?_⟩
  exact List.append_assoc w.effects [_] _

/-- **A text is read as a digest if it is a spelling of it, and then it names no entity.**  The
spellings of a digest are the 43 characters that spell its bytes and these with one sign of padding,
and no third; the pseudonym of an entity is one of them for its digest.  So to look up an entity is
to tell of it as it is, and to look up a digest is to tell of the user behind it or of no one, and
never of an entity of that name. -/
theorem digests_are_told_from_entities (ctx : Context σ) (w : World σ) :
    (∀ v (d : Digest), Entity.digest? v = some d ↔ Base64.IsSpelling v d.toList) ∧
    (∀ d : Digest, ∃ text, Base64.Spells text d.toList ∧ text.length = 43 ∧
      ∀ v, Entity.digest? v = some d ↔ v = String.ofList text ∨ v = String.ofList (text ++ ['='])) ∧
    (∀ entity, Entity.digest? (Entity.pseudonym entity) = some (sha256Text entity)) ∧
    (∀ v, (Entity.digest? v).isSome = true → Entity.classify v = none) ∧
    (∀ v kind, Entity.classify v = some kind →
      lookUp ctx v w = (.ok .quiet, (LookUp.describe ctx kind v w).2)) ∧
    ∀ v d, Entity.digest? v = some d → lookUp ctx v w =
      match w.store.reverse d with
      | none => (.ok .quiet, w.shown ctx (LookUp.unknownText v))
      | some user =>
        match Entity.classify user with
        | some kind => (.ok .quiet,
            (LookUp.describe ctx kind user (w.shown ctx (LookUp.foundText user v))).2)
        | none => (.error (.invalidEntity user), w.shown ctx (LookUp.foundText user v)) := by
  refine ⟨fun v d => ?_, fun d => ?_, Entity.digest?_pseudonym, fun v hdigest => ?_,
    fun v kind => lookUp_of_entity, fun v d hdigest => ?_⟩
  · exact Entity.digest?_eq_some_iff.trans Base64.isSpelling_iff.symm
  · refine ⟨Base64.digits d.toList, Base64.spells_digits _, ?_, fun v => ?_⟩
    · rw [Base64.length_digits, Vector.length_toList]
    · rw [Entity.digest?_eq_some_iff, Entity.encode_digest, or_comm]
  · obtain ⟨digest, hdigest⟩ := Option.isSome_iff_exists.1 hdigest
    exact Entity.classify_eq_none_of_digest? hdigest
  · cases hreverse : w.store.reverse d with
    | none => exact lookUp_of_unknown hdigest hreverse
    | some user => exact lookUp_of_reverse hdigest hreverse

/-- A user is looked up by name and behind the pseudonym that the store remembers. -/
theorem digests_are_told_from_entities_remembered :
    let w : World Unit := { World.small with store := World.small.store.remember "@a:b" }
    let hidden := Entity.pseudonym "@a:b"
    Entity.digest? hidden = some (sha256Text "@a:b") ∧
      (Entity.digest? hidden).isSome = true ∧ Entity.classify hidden = none ∧
      Entity.classify "@a:b" = some .user ∧
      lookUp Context.small "@a:b" w =
        (.ok .quiet, (LookUp.describe Context.small .user "@a:b" w).2) ∧
      lookUp Context.small hidden w =
        (.ok .quiet, (LookUp.describe Context.small .user "@a:b"
          (w.shown Context.small (LookUp.foundText "@a:b" hidden))).2) := by
  intro w hidden
  have huser : Entity.classify "@a:b" = some .user := by decide
  have hbehind : w.store.reverse (sha256Text "@a:b") = some "@a:b" := by
    rw [Store.reverse_remember rfl, if_pos rfl]
  obtain ⟨-, -, hpseudonym, hnothing, hentity, hdigest⟩ :=
    digests_are_told_from_entities Context.small w
  have hhidden : Entity.digest? hidden = some (sha256Text "@a:b") := hpseudonym "@a:b"
  have hsome : (Entity.digest? hidden).isSome = true := Option.isSome_of_eq_some hhidden
  have hlookUp := hdigest hidden _ hhidden
  rw [hbehind] at hlookUp
  simp only [huser] at hlookUp
  exact ⟨hhidden, hsome, hnothing hidden hsome, huser, hentity "@a:b" .user huser, hlookUp⟩

end Commands
end Moderation

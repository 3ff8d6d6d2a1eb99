import Mathlib.Data.List.Forall2
import Moderation.Proofs.Moderator.Session
import Moderation.Proofs.Store.Undated
/-!
# What is done in a session

Three things are done that last: a rule is taken from its list, a publication is tried, a user is
kicked (`Deed`).  What a world has become of another by some deeds (`World.Went`) is said of three
places at once: the homeserver was asked to publish what was tried and nothing else, the store has
gained the rules that were taken or published, and the audit log an entry for each publication that
was tried and each user that was kicked.

An act that only asks things of the homeserver is no deed (`World.Went.of_asks`), a mutation that
goes ahead is one (`World.Went.published`), and a kick is one for each user (`Kick.run_went`).
-/

namespace Moderation

variable {σ : Type} {ctx : Context σ}

/-! ## Deeds -/

/-- Something that is done and lasts. -/
inductive Deed where
  /-- A rule was taken from its list. -/
  | ingested (r : PolicyRecord)
  /-- A publication was tried. -/
  | tried (listRoom : String) (kind : EntityKind) (stateKey : String) (content : PolicyContent)
    (answer : Answer String)
  /-- A user was kicked. -/
  | kicked (outcome : KickOutcome)

namespace Deed

/-- The publication that was tried in a call to the homeserver. -/
def ofCall? : Effect × Reply → Option Deed
  | (.publish listRoom kind stateKey content, .text answer) =>
    some (.tried listRoom kind stateKey content answer)
  | _ => none

/-- Whether a publication was tried. -/
def isTried : Deed → Bool
  | .tried _ _ _ _ _ => true
  | _ => false

/-- Whether an entry is written about a deed. -/
def isLogged : Deed → Bool
  | .ingested _ => false
  | _ => true

/-- The record that a deed puts into the store, at no time in particular. -/
def recorded? (bot : String) : Deed → Option PolicyRecord
  | .ingested r => some r
  | .tried listRoom kind stateKey content (.ok _) =>
    some { listRoom, kind, stateKey, sender := bot, timestamp := 0, content }
  | _ => none

/-- Whether an entry of the audit log tells of a deed. -/
def Told : Deed → AuditEntry → Prop
  | .ingested _, _ => False
  | .tried listRoom _ stateKey _ answer, e =>
    e.listRoom = some listRoom ∧ e.stateKey = some stateKey ∧ e.eventId = answer.toOption ∧
      (e.result = "ok" ↔ answer.toOption.isSome)
  | .kicked o, e =>
    e.action = "kick" ∧ e.entity = o.user ∧ e.result = o.result ∧
      e.listRoom = none ∧ e.stateKey = none ∧ e.eventId = none

end Deed

/-! ## What a store gains -/

namespace Store

/-- Publishes records, one after the other. -/
def publishAll (records : List PolicyRecord) (s : Store) : Store :=
  records.foldl (fun s r => s.publish r) s

/-- Remembers users, one after the other. -/
def rememberAll (users : List String) (s : Store) : Store :=
  users.foldl (fun s user => s.remember user) s

theorem publish_remember (s : Store) (r : PolicyRecord) (user : String) :
    (s.remember user).publish r = (s.publish r).remember user := by
  cases s <;> rfl

theorem publish_rememberAll (users : List String) (s : Store) (r : PolicyRecord) :
    (s.rememberAll users).publish r = (s.publish r).rememberAll users := by
  induction users generalizing s with
  | nil => rfl
  | cons user users ih =>
    have hcons (s : Store) : s.rememberAll (user :: users) = (s.remember user).rememberAll users :=
      rfl
    rw [hcons, hcons, ih, publish_remember]

theorem publishAll_rememberAll (users : List String) (records : List PolicyRecord) (s : Store) :
    (s.rememberAll users).publishAll records = (s.publishAll records).rememberAll users := by
  induction records generalizing s with
  | nil => rfl
  | cons r records ih =>
    have hcons (s : Store) : s.publishAll (r :: records) = (s.publish r).publishAll records := rfl
    rw [hcons, hcons, publish_rememberAll, ih]

theorem publishAll_append (records after : List PolicyRecord) (s : Store) :
    s.publishAll (records ++ after) = (s.publishAll records).publishAll after :=
  List.foldl_append

theorem rememberAll_append (users after : List String) (s : Store) :
    s.rememberAll (users ++ after) = (s.rememberAll users).rememberAll after :=
  List.foldl_append

theorem publishAll_congr {s t : Store} (h : s.undated = t.undated) (records : List PolicyRecord) :
    (s.publishAll records).undated = (t.publishAll records).undated := by
  induction records generalizing s t with
  | nil => exact h
  | cons r records ih =>
    refine ih ?_
    rw [undated_publish, undated_publish, h]

theorem rememberAll_congr {s t : Store} (h : s.undated = t.undated) (users : List String) :
    (s.rememberAll users).undated = (t.rememberAll users).undated := by
  induction users generalizing s t with
  | nil => exact h
  | cons user users ih =>
    refine ih ?_
    rw [undated_remember, undated_remember, h]

/-- A store is what another becomes when records are published to it, apart from their times; some
users may be remembered besides. -/
def Gained (records : List PolicyRecord) (s t : Store) : Prop :=
  ∃ users : List String, t.undated = ((s.publishAll records).rememberAll users).undated

namespace Gained

variable {records after : List PolicyRecord} {s t u : Store}

theorem refl (s : Store) : Gained [] s s := ⟨[], rfl⟩

theorem trans (h : Gained records s t) (h' : Gained after t u) : Gained (records ++ after) s u := by
  obtain ⟨users, ht⟩ := h
  obtain ⟨users', hu⟩ := h'
  refine ⟨users ++ users', ?_⟩
  rw [hu, rememberAll_congr (publishAll_congr ht after), publishAll_rememberAll,
    ← publishAll_append, rememberAll_append]

theorem publish (s : Store) (r : PolicyRecord) : Gained [r] s (s.publish r) := ⟨[], rfl⟩

theorem rememberAll (s : Store) (users : List String) : Gained [] s (s.rememberAll users) :=
  ⟨users, rfl⟩

theorem remember (s : Store) (user : String) : Gained [] s (s.remember user) := ⟨[user], rfl⟩

/-- A mutation puts its record into the store, at whatever time. -/
theorem recordIn (m : Mutation) (p : Publication) (sender : String) (timestamp : Int64)
    (s : Store) : Gained [m.record p sender 0] s (m.recordIn p sender timestamp s) := by
  have hnow : Gained [m.record p sender 0] s (m.recordIn p sender 0 s) := by
    have hpublish := publish s (m.record p sender 0)
    unfold Mutation.recordIn
    split
    · exact hpublish.trans (remember _ m.entity)
    · exact hpublish
  obtain ⟨users, h⟩ := hnow
  exact ⟨users, (m.recordIn_congr p sender timestamp 0 rfl).trans h⟩

end Gained
end Store

/-! ## What a world has become -/

/-- The publications that were tried between a world and a later one: what the homeserver was asked
in between is asked again. -/
def World.tried (ctx : Context σ) (w w' : World σ) : List Deed :=
  (ctx.homeserver.exchange (w'.effects.drop w.effects.length) w.server).1.filterMap Deed.ofCall?

/-- What has become of a world by some deeds. -/
structure World.Went (ctx : Context σ) (deeds : List Deed) (w w' : World σ) : Prop where
  /-- The store has gained the rules that were taken or published. -/
  store : Store.Gained (deeds.filterMap (Deed.recorded? ctx.settings.botUser)) w.store w'.store
  /-- One entry was written for each deed that is logged. -/
  audit : ∃ entries : List AuditEntry, w'.audit = entries.foldl AuditLog.append w.audit ∧
    List.Forall₂ Deed.Told (deeds.filter Deed.isLogged) entries
  /-- The homeserver was asked to publish what was tried, and answered so. -/
  calls : ∃ asked : List Effect, w'.effects = w.effects ++ asked ∧
    w'.server = (ctx.homeserver.exchange asked w.server).2 ∧
    (ctx.homeserver.exchange asked w.server).1.filterMap Deed.ofCall? = deeds.filter Deed.isTried

namespace World.Went

variable {deeds after : List Deed} {w w' w'' : World σ}

theorem refl (w : World σ) : Went ctx [] w w where
  store := .refl w.store
  audit := ⟨[], rfl, .nil⟩
  calls := ⟨[], (List.append_nil _).symm, rfl, rfl⟩

theorem trans (h : Went ctx deeds w w') (h' : Went ctx after w' w'') :
    Went ctx (deeds ++ after) w w'' where
  store := by
    rw [List.filterMap_append]
    exact h.store.trans h'.store
  audit := by
    obtain ⟨entries, hw', htold⟩ := h.audit
    obtain ⟨entries', hw'', htold'⟩ := h'.audit
    refine ⟨entries ++ entries', ?_, ?_⟩
    · rw [hw'', hw', List.foldl_append]
    · rw [List.filter_append]
      exact List.rel_append htold htold'
  calls := by
    obtain ⟨asked, heffects, hserver, htried⟩ := h.calls
    obtain ⟨asked', heffects', hserver', htried'⟩ := h'.calls
    refine ⟨asked ++ asked', ?_, ?_, ?_⟩
    · rw [heffects', heffects, List.append_assoc]
    · rw [Homeserver.exchange_append, ← hserver, hserver']
    · rw [Homeserver.exchange_append, ← hserver, List.filterMap_append, htried, htried',
        List.filter_append]

/-- What was tried is what the homeserver was asked to publish. -/
theorem tried_eq (h : Went ctx deeds w w') : w.tried ctx w' = deeds.filter Deed.isTried := by
  obtain ⟨asked, heffects, -, htried⟩ := h.calls
  unfold World.tried
  rw [heffects, List.drop_left, htried]

/-- Where the deeds are publications that were tried and then users that were kicked, those that
were tried can be read off what the homeserver was asked. -/
theorem of_tried {kicks : List KickOutcome} (h : Went ctx (deeds ++ kicks.map .kicked) w w')
    (htried : ∀ deed ∈ deeds, deed.isTried = true) :
    Went ctx (w.tried ctx w' ++ kicks.map .kicked) w w' := by
  have hkicks : (kicks.map Deed.kicked).filter Deed.isTried = [] :=
    List.filter_eq_nil_iff.2 (by simp [Deed.isTried])
  rw [h.tried_eq, List.filter_append, hkicks, List.append_nil, List.filter_eq_self.2 htried]
  exact h

/-- To ask anything but a publication of the homeserver is no deed. -/
theorem asked {α : Type} {effect : Effect} {call : StateM σ α}
    (hc : ctx.homeserver.Serves effect call) (he : effect.isPublication = false) (w : World σ) :
    Went ctx [] w (w.asked effect (call w.server).2) where
  store := .refl w.store
  audit := ⟨[], rfl, .nil⟩
  calls := by
    obtain ⟨f, -, hexchange⟩ := hc.exchange_eq
    refine ⟨[effect], rfl, ?_, ?_⟩
    · rw [hexchange]
      rfl
    · rw [hexchange]
      cases effect with
      | publish => cases he
      | _ => rfl

/-- **An act that only asks things of the homeserver is no deed.** -/
theorem of_asks {α : Type} {act : Act σ α} (hact : ∀ K, Act.Asks ctx K → K.Holds Eq act act)
    (w : World σ) : Went ctx [] w (act w).2 := by
  have hasks : Act.Asks ctx (.ofWorlds fun v v' => v = v' ∧ Went ctx [] w v) := by
    refine ⟨?_, Act.Coupling.ofWorlds_sees fun _ _ h => congrArg World.membership h.1⟩
    rintro α effect call hc he v _ ⟨rfl, hv⟩
    exact ⟨rfl, rfl, hv.trans (asked hc he v)⟩
  exact (hact _ hasks).preserves w (refl w)

/-- **A mutation that goes ahead tries to publish**, and that is all it does. -/
theorem published (m : Mutation) (p : Publication) (actor : String) (w : World σ) :
    Went ctx [.tried m.list.roomId m.kind p.stateKey p.content (m.answer ctx p w)] w
      (w.published ctx m p actor) where
  store := by
    cases ha : m.answer ctx p w with
    | error e =>
      rw [World.published_store_of_error ha]
      exact .refl w.store
    | ok eventId =>
      rw [World.published_store_of_ok ha]
      exact .recordIn m p _ _ w.store
  audit := by
    refine ⟨[m.entry p actor (m.answer ctx p w) (ctx.moment w.ticks)], rfl, ?_⟩
    refine .cons ⟨rfl, rfl, rfl, ?_⟩ .nil
    cases m.answer ctx p w with
    | ok eventId => exact ⟨fun _ => rfl, fun _ => rfl⟩
    | error e =>
      exact ⟨fun hr => absurd hr (by decide : ("failed" : String) ≠ "ok"), fun hs => by cases hs⟩
  calls := ⟨[m.effect p], rfl, rfl, rfl⟩

/-- A user that was kicked is entered into the audit log. -/
theorem kicked {o : KickOutcome} {e : AuditEntry} (h : Deed.Told (.kicked o) e) (w : World σ) :
    Went ctx [.kicked o] w { w with audit := w.audit.append e, ticks := w.ticks + 1 } where
  store := .refl w.store
  audit := ⟨[e], rfl, .cons h .nil⟩
  calls := ⟨[], (List.append_nil _).symm, rfl, rfl⟩

/-- Acts that are one deed each are as many deeds, one after another. -/
theorem mapM {α β : Type} {act : α → Act σ β} {deed : β → Deed}
    (h : ∀ a w, Went ctx [deed (act a w).1] w (act a w).2) (l : List α) (w : World σ) :
    Went ctx ((l.mapM act w).1.map deed) w (l.mapM act w).2 := by
  induction l generalizing w with
  | nil => exact refl w
  | cons a l ih =>
    rw [List.mapM_cons]
    exact (h a w).trans (ih _)

end World.Went

/-! ## Kicks -/

namespace Kick

/-- Kicks a user from some rooms and tells the moderators, but writes nothing into the audit log. -/
def attempt (ctx : Context σ) (reason who : String) (rooms : List String) : Act σ KickOutcome := do
  let answers ← rooms.mapM (fromRoom ctx who reason)
  let outcome := KickOutcome.ofAnswers who answers
  outcome.failures.forM fun failure => Act.notice ctx (outcome.failureNotice failure.1 failure.2)
  Act.notice ctx outcome.notice
  return outcome

theorem attempt_went (reason who : String) (rooms : List String) (w : World σ) :
    World.Went ctx [] w (attempt ctx reason who rooms w).2 := by
  refine .of_asks (fun K h => ?_) w
  unfold attempt
  refine .bind (.mapM (fromRoom_related h who reason) rooms) fun answers => ?_
  refine .bind (.forM (fun _ => h.notice ctx.moment _) _) fun _ => ?_
  exact .bind (h.notice ctx.moment _) fun _ => .pure _

/-- **A user that is kicked is one deed**, whatever came of it in the rooms. -/
theorem user_went (reason actor who : String) (rooms : List String) (w : World σ) :
    World.Went ctx [.kicked (user ctx reason actor who rooms w).1] w
      (user ctx reason actor who rooms w).2 :=
  (attempt_went reason who rooms w).trans (.kicked ⟨rfl, rfl, rfl, rfl, rfl, rfl⟩ _)

/-- The users that were kicked. -/
def outcomes : KickReport → List KickOutcome
  | .executed outcomes => outcomes
  | _ => []

/-- **A kick is one deed for each user that is kicked.** -/
theorem run_went (pattern : Glob) (reason : String) (force : Bool) (actor : String) (w : World σ) :
    World.Went ctx ((outcomes (run ctx pattern reason force actor w).1).map .kicked) w
      (run ctx pattern reason force actor w).2 := by
  unfold run
  rw [Act.bind_apply, Act.get_apply]
  dsimp only
  split
  · exact .asked (Homeserver.serves_notice _) rfl w
  · split
    · exact .asked (Homeserver.serves_notice _) rfl w
    · let kickUser (u : String) : Act σ KickOutcome :=
        user ctx reason actor u (w.membership.roomsOf u)
      have hkick (u : String) (v : World σ) :
          World.Went ctx [.kicked (kickUser u v).1] v (kickUser u v).2 :=
        user_went reason actor u _ v
      exact .mapM hkick _ w

end Kick
end Moderation

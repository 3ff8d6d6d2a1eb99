import Mathlib.Data.List.Nodup
import Moderation.Proofs.Membership
import Moderation.Proofs.Moderator.Act
import Moderation.Proofs.Moderator.KickOrder
import Moderation.Proofs.Moderator.Requests
import Moderation.Proofs.Text.ByteOrder
/-!
# Who is kicked, and from where

A kick finds the users who match, and kicks each of them from the rooms it is in.  What comes of a
user depends on the answers of its own rooms and on nothing else (`Kick.kicks_user`): a room that
fails is named, and the others go on.  Users and rooms come in the order of their bytes
(`KickOutcome.Exact`).

A homeserver may answer the kicks that are under way in any order.  The same comes of them, and each
is asked for once (`KickSweep.faithful_of_run`).  That is all there is to a kick, but for the gate
in front of it: nobody is kicked if nobody is found, or too many are and it is not forced
(`Kick.run_exact`).
-/

namespace Moderation

variable {σ α β : Type} {ctx : Context σ}

/-- Whether something that is asked of the homeserver is to kick a user. -/
def Effect.isKick : Effect → Bool
  | .kick _ _ _ => true
  | _ => false

/-- The kicks that were asked of the homeserver, in order. -/
def World.kicks (w : World σ) : List Effect := w.effects.filter Effect.isKick

theorem World.kicks_asked (effect : Effect) (server : σ) (w : World σ) :
    (w.asked effect server).kicks = w.kicks ++ [effect].filter Effect.isKick :=
  List.filter_append ..

/-- An act has one result whatever the world is like, and asks for some kicks. -/
def Act.Kicks (act : Act σ α) (a : α) (kicks : List Effect) : Prop :=
  ∀ w, (act w).1 = a ∧ (act w).2.kicks = w.kicks ++ kicks

namespace Act.Kicks

theorem pure (a : α) : Kicks (pure a : Act σ α) a [] := fun _ => ⟨rfl, (List.append_nil _).symm⟩

theorem bind {act : Act σ α} {next : α → Act σ β} {a : α} {b : β} {kicks kicks' : List Effect}
    (h : Kicks act a kicks) (hnext : Kicks (next a) b kicks') :
    Kicks (act >>= next) b (kicks ++ kicks') := by
  intro w
  obtain ⟨hresult, hkicks⟩ := h w
  obtain ⟨hresult', hkicks'⟩ := hnext (act w).2
  rw [bind_apply, hresult]
  exact ⟨hresult', by rw [hkicks', hkicks, List.append_assoc]⟩

/-- An act whose result does not matter, and which asks for no kick, may come before. -/
theorem after {act : Act σ α} {next : α → Act σ β} {b : β} {kicks : List Effect}
    (h : ∀ w, (act w).2.kicks = w.kicks) (hnext : ∀ a, Kicks (next a) b kicks) :
    Kicks (act >>= next) b kicks := by
  intro w
  obtain ⟨hresult, hkicks⟩ := hnext (act w).1 (act w).2
  rw [bind_apply]
  exact ⟨hresult, by rw [hkicks, h]⟩

theorem mapM {act : α → Act σ β} {f : α → β} {kicks : α → List Effect}
    (h : ∀ a, Kicks (act a) (f a) (kicks a)) (l : List α) :
    Kicks (l.mapM act) (l.map f) (l.flatMap kicks) := by
  induction l with
  | nil => exact pure []
  | cons a l ih =>
    rw [List.mapM_cons, List.map_cons, List.flatMap_cons, ← List.append_nil (l.flatMap kicks)]
    exact (h a).bind (ih.bind (pure _))

theorem notice (ctx : Context σ) (text : String) : Kicks (Act.notice ctx text) () [] :=
  fun _ => ⟨rfl, World.kicks_asked _ _ _⟩

theorem forM_notice (ctx : Context σ) (text : α → String) (l : List α) :
    Kicks (l.forM fun a => Act.notice ctx (text a)) () [] := by
  induction l with
  | nil => exact pure ()
  | cons a l ih =>
    exact (notice ctx (text a)).bind ih

end Act.Kicks

namespace Kick

/-- The kicks of a user from its rooms, which are asked for unless it is a dry run. -/
def asked (ctx : Context σ) (reason : String) (x : String × List String) : List Effect :=
  if ctx.settings.dryRun then [] else x.2.map fun room => .kick room x.1 reason

section
variable {answers : String → String → Answer Unit} {reason : String}
  (hanswers : ∀ user room s, (ctx.homeserver.kick room user reason s).1 = answers user room)
include hanswers

theorem kicks_fromRoom (user room : String) :
    Act.Kicks (fromRoom ctx user reason room)
      (room, KickSweep.answer ctx.settings.dryRun answers user room)
      (asked ctx reason (user, [room])) := by
  unfold fromRoom asked KickSweep.answer
  cases ctx.settings.dryRun with
  | true => exact .pure _
  | false =>
    have hperform : Act.Kicks (Act.perform (.kick room user reason)
        (ctx.homeserver.kick room user reason)) (answers user room) [.kick room user reason] :=
      fun w => ⟨hanswers user room w.server, World.kicks_asked _ _ w⟩
    exact hperform.bind (.pure _)

/-- **What comes of a user depends on the answers of its own rooms**, each of which it is kicked
from. -/
theorem kicks_user (actor : String) (user : String) (rooms : List String) :
    Act.Kicks (Kick.user ctx reason actor user rooms)
      (KickSweep.outcome ctx.settings.dryRun answers (user, rooms))
      (asked ctx reason (user, rooms)) := by
  have hrooms : asked ctx reason (user, rooms) =
      rooms.flatMap fun room => asked ctx reason (user, [room]) := by
    unfold asked
    cases ctx.settings.dryRun
    · exact List.map_eq_flatMap
    · simp
  rw [hrooms, ← List.append_nil (rooms.flatMap _)]
  unfold Kick.user
  refine (Act.Kicks.mapM (kicks_fromRoom hanswers user) rooms).bind ?_
  refine (Act.Kicks.forM_notice ctx _ _).bind ((Act.Kicks.notice ctx _).bind ?_)
  exact .after (fun _ => rfl) fun _ => .after (fun _ => rfl) fun _ => .pure _

omit hanswers in
/-- Where nobody is found nothing is done. -/
theorem run_of_none {pattern : Glob} {w : World σ}
    (h : w.membership.findUsers pattern none = []) (force : Bool) (actor : String) :
    ∃ text, run ctx pattern reason force actor w = (.noMatch, w.shown ctx text) := by
  unfold run
  rw [Act.bind_apply, Act.get_apply]
  simp only [h, List.isEmpty_nil, if_true]
  exact ⟨_, rfl⟩

omit hanswers in
/-- Where too many are found nothing is done unless it is forced. -/
theorem run_of_many {pattern : Glob} {w : World σ}
    (h : ctx.settings.kickThreshold < (w.membership.findUsers pattern none).length)
    (actor : String) :
    ∃ text, run ctx pattern reason false actor w =
      (.needsForce (w.membership.findUsers pattern none).length, w.shown ctx text) := by
  have hsome : (w.membership.findUsers pattern none).isEmpty = false := by
    rw [List.isEmpty_eq_false_iff, ← List.length_pos_iff]
    exact Nat.zero_lt_of_lt h
  unfold run
  rw [Act.bind_apply, Act.get_apply]
  simp only [hsome, requiresForce, h, decide_true, Bool.not_false, Bool.and_self, if_true,
    Bool.false_eq_true, if_false]
  exact ⟨_, rfl⟩

/-- Otherwise all that are found are kicked. -/
theorem run_of_some {pattern : Glob} {w : World σ} {force : Bool}
    (hsome : w.membership.findUsers pattern none ≠ [])
    (hforce : requiresForce (w.membership.findUsers pattern none).length
      ctx.settings.kickThreshold force = false) (actor : String) :
    let users := (w.membership.findUsers pattern none).map fun u => (u, w.membership.roomsOf u)
    let after := run ctx pattern reason force actor w
    after.1 = .executed (users.map (KickSweep.outcome ctx.settings.dryRun answers)) ∧
      after.2.kicks = w.kicks ++ users.flatMap (asked ctx reason) := by
  have hnot : (w.membership.findUsers pattern none).isEmpty = false :=
    List.isEmpty_eq_false_iff.2 hsome
  have huser (u : String) :
      Act.Kicks (user ctx reason actor u (w.membership.roomsOf u))
        (KickSweep.outcome ctx.settings.dryRun answers (u, w.membership.roomsOf u))
        (asked ctx reason (u, w.membership.roomsOf u)) :=
    kicks_user hanswers actor u _
  have hkicks := Act.Kicks.mapM huser (w.membership.findUsers pattern none)
  unfold run
  rw [Act.bind_apply, Act.get_apply]
  simp only [hnot, hforce, Bool.false_eq_true, if_false, Membership.filter_findUsers,
    List.map_map, List.flatMap_map]
  obtain ⟨hresult, hafter⟩ := hkicks w
  rw [Act.bind_apply, hresult]
  exact ⟨rfl, hafter⟩

end

end Kick

/-! ## What comes of a kick -/

namespace KickOutcome

/-- Of the rooms of a user some succeed and the others fail. -/
theorem succeeded_add_failures (user : String) (answers : List (String × Answer Unit)) :
    (ofAnswers user answers).succeeded + (ofAnswers user answers).failures.length =
      (ofAnswers user answers).rooms.length := by
  simp only [ofAnswers, List.length_map]
  induction answers with
  | nil => rfl
  | cons x answers ih =>
    obtain ⟨room, answer⟩ := x
    cases answer with
    | ok _ =>
      rw [List.countP_cons_of_pos (by rfl), List.filterMap_cons_none (by rfl), List.length_cons]
      omega
    | error e =>
      rw [List.countP_cons_of_neg (by simp [Except.toOption]), List.filterMap_cons_some (by rfl),
        List.length_cons, List.length_cons]
      omega

/-- An outcome is exact: its rooms are those that the user is in, in the order of their bytes; the
rooms that failed are those whose own answer is an error, in the order of the rooms; and the others
have succeeded. -/
structure Exact (m : Membership) (answer : String → String → Answer Unit) (o : KickOutcome) :
    Prop where
  ordered : o.rooms.Pairwise fun r r' => Text.bytes r < Text.bytes r'
  mem_rooms : ∀ room, room ∈ o.rooms ↔ m.Holds room o.user
  failures : o.failures = o.rooms.filterMap fun room =>
    match answer o.user room with
    | .ok () => none
    | .error e => some (room, e)
  /-- Whether a room has failed depends on the answer of that room to that user alone. -/
  isolated : ∀ room e, (room, e) ∈ o.failures ↔ room ∈ o.rooms ∧ answer o.user room = .error e
  count : o.succeeded + o.failures.length = o.rooms.length

/-- The users and rooms of some outcomes. -/
def pairs (outcomes : List KickOutcome) : List (String × String) :=
  outcomes.flatMap fun o => o.rooms.map (o.user, ·)

end KickOutcome

namespace KickSweep

@[simp] theorem outcome_user (dryRun : Bool) (answers : String → String → Answer Unit)
    (x : String × List String) : (outcome dryRun answers x).user = x.1 := rfl

@[simp] theorem outcome_rooms (dryRun : Bool) (answers : String → String → Answer Unit)
    (x : String × List String) : (outcome dryRun answers x).rooms = x.2 := by
  simp [outcome, KickOutcome.ofAnswers, Function.comp_def]

/-- The outcomes tell who was to be kicked from where. -/
theorem map_outcome (dryRun : Bool) (answers : String → String → Answer Unit)
    (all : List (String × List String)) :
    ((all.map (outcome dryRun answers)).map fun o => (o.user, o.rooms)) = all := by
  simp [Function.comp_def]

theorem pairs_outcome (dryRun : Bool) (answers : String → String → Answer Unit)
    (all : List (String × List String)) :
    KickOutcome.pairs (all.map (outcome dryRun answers)) =
      all.flatMap fun x => x.2.map (x.1, ·) := by
  simp only [KickOutcome.pairs, List.flatMap_map, outcome_user, outcome_rooms]

theorem outcome_exact {m : Membership} (h : m.Ordered) (dryRun : Bool)
    (answers : String → String → Answer Unit) (user : String) :
    (outcome dryRun answers (user, m.roomsOf user)).Exact m (answer dryRun answers) := by
  have hfailures : (outcome dryRun answers (user, m.roomsOf user)).failures =
      (m.roomsOf user).filterMap fun room =>
        match answer dryRun answers user room with
        | .ok () => none
        | .error e => some (room, e) :=
    List.filterMap_map ..
  refine ⟨?_, fun room => ?_, ?_, fun room e => ?_, KickOutcome.succeeded_add_failures _ _⟩
  · rw [outcome_rooms]
    exact Text.pairwise_bytes (h.pairwise_roomsOf user)
  · rw [outcome_rooms]
    exact Membership.mem_roomsOf
  · rw [outcome_rooms]
    exact hfailures
  · rw [outcome_rooms, hfailures, List.mem_filterMap]
    constructor
    · rintro ⟨room', hroom', heq⟩
      split at heq
      · cases heq
      · next hanswer =>
        obtain ⟨rfl, rfl⟩ := Prod.mk.inj (Option.some.inj heq)
        exact ⟨hroom', hanswer⟩
    · rintro ⟨hroom, hanswer⟩
      exact ⟨room, hroom, by rw [show answer dryRun answers user room = .error e from hanswer]⟩

/-- Kicks that go on at the same time are faithful to some outcomes: no kick of a user begins before
those of all the users before it have ended, and no more are under way than the limit; something can
happen until all is over, and it is over after so many events; and when it is, these are the
outcomes, and the homeserver has seen each kick begin once, or none in a dry run. -/
structure Faithful (limit : Nat) (dryRun : Bool) (answers : String → String → Answer Unit)
    (outcomes : List KickOutcome) (events : List SweepEvent) (s : KickSweep) : Prop where
  serial : Serial (outcomes.map fun o => (o.user, o.rooms)) s.calls
  bounded : ∀ user window, s.current = some (user, window) → window.begun.length ≤ max limit 1
  progress : s.isOver = false → ∃ e, (s.step limit dryRun answers e).isSome = true
  ends : events.length ≤ (outcomes.map fun o => 3 * o.rooms.length + 2).sum
  done : s.isOver = true → s.outcomes = outcomes ∧
    s.calls.filterMap KickCall.begun? = if dryRun then [] else KickOutcome.pairs outcomes

/-- **Whatever the order of the answers, the same comes of the kicks.** -/
theorem faithful_of_run {limit : Nat} {dryRun : Bool} {answers : String → String → Answer Unit}
    {all : List (String × List String)} (hall : all.Pairwise fun x y => x.1 < y.1)
    {events : List SweepEvent} {s : KickSweep}
    (hrun : KickSweep.run limit dryRun answers { users := all } events = some s) :
    Faithful limit dryRun answers (all.map (outcome dryRun answers)) events s := by
  obtain ⟨⟨done, h⟩, hleft⟩ := (sound_start all).run hall hrun
  constructor
  · rw [map_outcome]
    cases hdry : dryRun with
    | true =>
      intro before after user room hcalls
      simp [h.silent hdry] at hcalls
    | false => exact (h.seen hdry).serial
  · exact fun user window hcurrent => (h.window user window hcurrent).bounded
  · exact exists_step limit dryRun answers
  · have hstart : KickSweep.left { users := all } = (all.map fun x => 3 * x.2.length + 2).sum := rfl
    simp only [List.map_map, Function.comp_def, outcome_rooms]
    omega
  · intro hover
    obtain ⟨houtcomes, hcalls⟩ := h.over hover
    exact ⟨houtcomes, by rw [hcalls, pairs_outcome]⟩

end KickSweep
namespace Kick

/-- Kicks are carried out as they should be: some users are kicked, each from the rooms it is in;
the homeserver is asked for each of these kicks once, or for none in a dry run; and if they go on at
the same time, the same comes of them in whatever order they are answered. -/
structure Executed (ctx : Context σ) (reason : String) (answers : String → String → Answer Unit)
    (users : List String) (w after : World σ) (outcomes : List KickOutcome) : Prop where
  users : outcomes.map (·.user) = users
  exact : ∀ o ∈ outcomes, o.Exact w.membership (KickSweep.answer ctx.settings.dryRun answers)
  once : (KickOutcome.pairs outcomes).Nodup
  kicks : after.kicks = w.kicks ++
    if ctx.settings.dryRun then []
    else (KickOutcome.pairs outcomes).map fun x => .kick x.2 x.1 reason
  anyOrder : ∀ events s,
    KickSweep.run ctx.settings.kickConcurrency ctx.settings.dryRun answers
        { users := outcomes.map fun o => (o.user, o.rooms) } events = some s →
      s.Faithful ctx.settings.kickConcurrency ctx.settings.dryRun answers outcomes events

/-- How a kick goes: nobody is found, too many are and it is not forced, or all who are found are
kicked. -/
inductive Course (ctx : Context σ) (pattern : Glob) (reason : String) (force : Bool)
    (answers : String → String → Answer Unit) (w : World σ) : KickReport → World σ → Prop
  | nobody (text : String) (hnone : w.membership.findUsers pattern none = []) :
    Course ctx pattern reason force answers w .noMatch (w.shown ctx text)
  | unforced (text : String)
    (hmany : ctx.settings.kickThreshold < (w.membership.findUsers pattern none).length)
    (hforce : force = false) :
    Course ctx pattern reason force answers w
      (.needsForce (w.membership.findUsers pattern none).length) (w.shown ctx text)
  | executed (outcomes : List KickOutcome) (after : World σ)
    (hsome : w.membership.findUsers pattern none ≠ [])
    (hfew : ctx.settings.kickThreshold < (w.membership.findUsers pattern none).length →
      force = true)
    (h : Executed ctx reason answers (w.membership.findUsers pattern none) w after outcomes) :
    Course ctx pattern reason force answers w (.executed outcomes) after

section
variable {answers : String → String → Answer Unit} {reason : String}
  (hanswers : ∀ user room s, (ctx.homeserver.kick room user reason s).1 = answers user room)
include hanswers

theorem executed_of_some {pattern : Glob} {w : World σ} {force : Bool}
    (hordered : w.membership.Ordered)
    (hsome : w.membership.findUsers pattern none ≠ [])
    (hforce : requiresForce (w.membership.findUsers pattern none).length
      ctx.settings.kickThreshold force = false) (actor : String) :
    ∃ outcomes, (run ctx pattern reason force actor w).1 = .executed outcomes ∧
      Executed ctx reason answers (w.membership.findUsers pattern none) w
        (run ctx pattern reason force actor w).2 outcomes := by
  obtain ⟨hreport, hkicks⟩ := run_of_some hanswers hsome hforce actor
  have hincreasing := w.membership.pairwise_findUsers pattern none
  generalize hall : (w.membership.findUsers pattern none).map
    (fun u => (u, w.membership.roomsOf u)) = all at hreport hkicks
  have hpairwise : all.Pairwise fun x y => x.1 < y.1 := by
    rw [← hall]
    exact List.pairwise_map.2 hincreasing
  refine ⟨_, hreport, ?_, ?_, ?_, ?_, ?_⟩
  · simp [← hall, Function.comp_def]
  · intro o ho
    obtain ⟨user, -, rfl⟩ : ∃ user ∈ w.membership.findUsers pattern none,
        KickSweep.outcome ctx.settings.dryRun answers (user, w.membership.roomsOf user) = o := by
      simpa [← hall] using ho
    exact KickSweep.outcome_exact hordered _ answers user
  · rw [KickSweep.pairs_outcome]
    refine List.nodup_flatMap.2 ⟨fun x hx => ?_, hpairwise.imp fun {x y} hlt => ?_⟩
    · obtain ⟨user, -, rfl⟩ := List.mem_map.1 (hall ▸ hx)
      exact (hordered.pairwise_roomsOf user).nodup.map fun _ _ heq => (Prod.mk.inj heq).2
    · -- Two users are not kicked from a room as one.
      intro pair hx hy
      obtain ⟨_, -, rfl⟩ := List.mem_map.1 hx
      obtain ⟨_, -, heq⟩ := List.mem_map.1 hy
      rw [(Prod.mk.inj heq).1] at hlt
      exact String.lt_irrefl _ hlt
  · rw [hkicks, KickSweep.pairs_outcome]
    unfold asked
    cases ctx.settings.dryRun <;> simp [List.map_flatMap, Function.comp_def]
  · intro events s hrun
    rw [KickSweep.map_outcome] at hrun
    exact KickSweep.faithful_of_run hpairwise hrun

theorem course_of_run (pattern : Glob) (force : Bool) (actor : String) {w : World σ}
    (hordered : w.membership.Ordered) :
    Course ctx pattern reason force answers w (run ctx pattern reason force actor w).1
      (run ctx pattern reason force actor w).2 := by
  by_cases hnone : w.membership.findUsers pattern none = []
  · obtain ⟨text, hrun⟩ : ∃ text, run ctx pattern reason force actor w =
        (.noMatch, w.shown ctx text) := run_of_none hnone force actor
    rw [hrun]
    exact .nobody text hnone
  · cases hforce : requiresForce (w.membership.findUsers pattern none).length
        ctx.settings.kickThreshold force with
    | true =>
      obtain ⟨hmany, rfl⟩ : ctx.settings.kickThreshold <
          (w.membership.findUsers pattern none).length ∧ force = false := by
        simpa [requiresForce] using hforce
      obtain ⟨text, hrun⟩ : ∃ text, run ctx pattern reason false actor w =
          (.needsForce (w.membership.findUsers pattern none).length, w.shown ctx text) :=
        run_of_many hmany actor
      rw [hrun]
      exact .unforced text hmany rfl
    | false =>
      obtain ⟨outcomes, hreport, hexecuted⟩ :=
        executed_of_some hanswers hordered hnone hforce actor
      rw [hreport]
      exact .executed outcomes _ hnone (by simpa [requiresForce] using hforce) hexecuted

end

/-- **What a kick does.**  Let a membership be ordered, and let the homeserver answer every kick by
the user and the room.  Whoever matches and is in a room is found, once and in the order of bytes.
If nobody is found, or too many are and it is not forced, nobody is kicked and nothing is written
into the audit log.  Otherwise all who are found are kicked. -/
theorem run_exact (ctx : Context σ) (pattern : Glob) (reason : String) (force : Bool)
    (actor : String) (w : World σ) {answers : String → String → Answer Unit}
    (hordered : w.membership.Ordered)
    (hanswers : ∀ user room s, (ctx.homeserver.kick room user reason s).1 = answers user room) :
    let report := (run ctx pattern reason force actor w).1
    let after := (run ctx pattern reason force actor w).2
    ∃ users : List String, (users.Pairwise fun u v => Text.bytes u < Text.bytes v) ∧
      (∀ user, user ∈ users ↔ w.membership.Matches pattern user) ∧
      (report = .noMatch ↔ ∀ user, ¬w.membership.Matches pattern user) ∧
      (∀ n, report = .needsForce n ↔
        n = users.length ∧ ctx.settings.kickThreshold < n ∧ force = false) ∧
      ((∀ outcomes, report ≠ .executed outcomes) →
        after.kicks = w.kicks ∧ after.audit = w.audit) ∧
      ∀ outcomes, report = .executed outcomes →
        Executed ctx reason answers users w after outcomes := by
  intro report after
  have hcourse : Course ctx pattern reason force answers w report after :=
    course_of_run hanswers pattern force actor hordered
  clear_value report after
  refine ⟨w.membership.findUsers pattern none,
    Text.pairwise_bytes (w.membership.pairwise_findUsers pattern none),
    fun user => Membership.mem_findUsers, ?_⟩
  have hempty : w.membership.findUsers pattern none = [] ↔
      ∀ user, ¬w.membership.Matches pattern user := by
    simp only [List.eq_nil_iff_forall_not_mem, Membership.mem_findUsers]
  have hshown (text : String) : (w.shown ctx text).kicks = w.kicks ∧
      (w.shown ctx text).audit = w.audit :=
    ⟨(Act.Kicks.notice ctx text w).2.trans (List.append_nil _), rfl⟩
  rw [← hempty]
  cases hcourse with
  | nobody text hnone =>
    refine ⟨by simp [hnone], fun n => ?_, fun _ => hshown text, nofun⟩
    simp only [reduceCtorEq, hnone, List.length_nil, false_iff]
    rintro ⟨rfl, hmany, -⟩
    exact Nat.not_lt_zero _ hmany
  | unforced text hmany hforce =>
    have hsome : w.membership.findUsers pattern none ≠ [] :=
      List.ne_nil_of_length_pos (Nat.zero_lt_of_lt hmany)
    refine ⟨by simp [hsome], fun n => ?_, fun _ => hshown text, nofun⟩
    rw [KickReport.needsForce.injEq]
    exact ⟨fun h => ⟨h.symm, h ▸ hmany, hforce⟩, fun h => h.1.symm⟩
  | executed outcomes _ hsome hfew h =>
    refine ⟨by simp [hsome], fun n => ?_, fun hnot => absurd rfl (hnot outcomes), ?_⟩
    · simp only [reduceCtorEq, false_iff]
      rintro ⟨rfl, hmany, hnot⟩
      rw [hfew hmany] at hnot
      cases hnot
    · rintro _ ⟨⟩
      exact h

/-- Two users who match are in two rooms, and one of the rooms does not let go of one of them. -/
theorem run_exact_failing_room :
    let answers : String → String → Answer Unit := fun user room =>
      if user = "@spam1:x" ∧ room = "!b:x" then .error (.transport "timed out") else .ok ()
    let ctx : Context Unit :=
      { Context.small with
        homeserver :=
          { Homeserver.willing with kick := fun room user _ => pure (answers user room) } }
    let w : World Unit :=
      { World.small with
        membership :=
          [{ roomId := "!a:x", joined := ["@spam2:x", "@spam1:x", "@ok:x"] },
            { roomId := "!b:x", joined := ["@spam1:x"] }].foldl Membership.apply (.ofRooms []) }
    let ran := run ctx ⟨"@spam*:x"⟩ "spam" false "@admin:example.org" w
    w.membership.Ordered ∧
      (∀ user room s, (ctx.homeserver.kick room user "spam" s).1 = answers user room) ∧
      ran.1 = .executed
        [{ user := "@spam1:x", rooms := ["!a:x", "!b:x"], succeeded := 1,
           failures := [("!b:x", .transport "timed out")] },
          { user := "@spam2:x", rooms := ["!a:x"], succeeded := 1, failures := [] }] ∧
      ∃ users, (∀ user, user ∈ users ↔ w.membership.Matches ⟨"@spam*:x"⟩ user) ∧
        ∀ outcomes, ran.1 = .executed outcomes →
          Executed ctx "spam" answers users w ran.2 outcomes := by
  intro answers ctx w ran
  have hordered : w.membership.Ordered := Membership.ordered_foldl [] _
  have hanswers : ∀ user room s, (ctx.homeserver.kick room user "spam" s).1 = answers user room :=
    fun _ _ _ => rfl
  obtain ⟨users, -, hmatches, -, -, -, hexecuted⟩ :=
    run_exact ctx ⟨"@spam*:x"⟩ "spam" false "@admin:example.org" w hordered hanswers
  refine ⟨hordered, hanswers, ?_, users, hmatches, hexecuted⟩
  decide +kernel

end Kick
end Moderation

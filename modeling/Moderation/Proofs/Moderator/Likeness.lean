import Moderation.Moderator.Commands
import Moderation.Proofs.Moderator.Act
import Moderation.Proofs.Moderator.Requests
/-!
# Commands that change no list go on alike

What a command that changes no list does depends on little: what the homeserver answers and who is
in which room.  Where these are alike it goes on alike, whatever the time
(`Commands.execute_related`).  All but kicks only ask things of the homeserver
(`Commands.execute_asks`).  A command that looks something up reads more, but only shows notices
(`Commands.lookUp_related_self`).
-/

namespace Moderation

variable {σ : Type} {ctx : Context σ}

/-- A context at other times. -/
def Context.timed (ctx : Context σ) (moment : Nat → Moment) : Context σ := { ctx with moment }

/-- An entry apart from its identifier and its time. -/
def AuditEntry.undated (e : AuditEntry) : AuditEntry := { e with id := "", time := "" }

/-- Whether something that is asked of the homeserver is to publish. -/
def Effect.isPublication : Effect → Bool
  | .publish _ _ _ _ => true
  | _ => false

namespace Act

/-- A coupling of acts that ask the same of the homeserver, unless it is to publish, and that read
who is in which room. -/
structure Asks (ctx : Context σ) (K : Coupling σ) : Prop where
  perform : ∀ {α : Type} {effect : Effect} {call : StateM σ α}, ctx.homeserver.Serves effect call →
    effect.isPublication = false → K.Holds Eq (perform effect call) (perform effect call)
  membership : K.Sees fun w v => w.membership = v.membership

/-- One of acts that also write an entry into the audit log, be it at other times. -/
structure Respects (ctx : Context σ) (moment' : Nat → Moment) (K : Coupling σ) : Prop
    extends Asks ctx K where
  entry : ∀ {α : Type} (e : Moment → AuditEntry) (a : α), (∀ m m', (e m).undated = (e m').undated) →
    K.Holds Eq (do audit (e (← moment ctx)); return a)
      (do audit (e (← moment (ctx.timed moment'))); return a)

/-- A property of worlds that lasts while the homeserver is asked for anything but a publication,
entries are written into the audit log and time passes. -/
structure Keeps (P : World σ → Prop) : Prop where
  asked : ∀ {effect : Effect}, effect.isPublication = false →
    ∀ server w, P w → P (w.asked effect server)
  logged : ∀ entry n w, P w → P { w with audit := w.audit.append entry, ticks := n }
  ticked : ∀ n w, P w → P { w with ticks := n }

/-- Worlds that are the same, and have such a property, go on alike. -/
theorem Keeps.respects {P : World σ → Prop} (hP : Keeps P) (ctx : Context σ) :
    Respects ctx ctx.moment (.ofWorlds fun w v => w = v ∧ P w) where
  perform _ he := by
    rintro w _ ⟨rfl, hw⟩
    exact ⟨rfl, rfl, hP.asked he _ w hw⟩
  entry _ _ _ := by
    rintro w _ ⟨rfl, hw⟩
    exact ⟨rfl, rfl, hP.logged _ _ w hw⟩
  membership := Coupling.ofWorlds_sees fun _ _ h => congrArg World.membership h.1

variable {K : Coupling σ} (h : Asks ctx K) (moment' : Nat → Moment)
include h

theorem Asks.notice (text : String) :
    K.Holds Eq (notice ctx text) (notice (ctx.timed moment') text) :=
  h.perform (Homeserver.serves_notice text) rfl

theorem Asks.react (event : String) :
    K.Holds Eq (react ctx event) (react (ctx.timed moment') event) :=
  h.perform (Homeserver.serves_react event) rfl

end Act

namespace Kick

open Act
variable {moment' : Nat → Moment} {K : Coupling σ}

theorem fromRoom_related (h : Asks ctx K) (who reason room : String) :
    K.Holds Eq (fromRoom ctx who reason room) (fromRoom (ctx.timed moment') who reason room) := by
  unfold fromRoom
  refine .ite (.pure _) ?_
  exact (h.perform (Homeserver.serves_kick room who reason) rfl).bind fun _ => .pure _

variable (h : Respects ctx moment' K)
include h

theorem user_related (reason actor who : String) (rooms : List String) :
    K.Holds Eq (user ctx reason actor who rooms)
      (user (ctx.timed moment') reason actor who rooms) := by
  unfold user
  refine .bind (.mapM (fromRoom_related h.toAsks who reason) rooms) fun answers => ?_
  refine .bind (.forM (fun _ => h.notice moment' _) _) fun _ => ?_
  refine .bind (h.notice moment' _) fun _ => ?_
  let entry (moment : Moment) : AuditEntry :=
    { id := moment.auditId, action := "kick", result := (KickOutcome.ofAnswers who answers).result,
      actor, entity := who,
      detail := some ((KickOutcome.ofAnswers who answers).detail ctx.settings.dryRun),
      time := moment.auditTime }
  exact h.entry entry _ fun _ _ => rfl

theorem run_related (pattern : Glob) (reason : String) (force : Bool) (actor : String) :
    K.Holds Eq (run ctx pattern reason force actor)
      (run (ctx.timed moment') pattern reason force actor) := by
  unfold run
  refine h.membership fun w v hwv => ?_
  rw [hwv]
  refine .ite ?_ (.ite ?_ ?_)
  · exact (h.notice moment' _).bind fun _ => .pure _
  · exact (h.notice moment' _).bind fun _ => .pure _
  · exact .bind (.mapM (fun _ => user_related h reason actor _ _) _) fun _ => .pure _

end Kick

namespace Commands

open Act
variable {moment' : Nat → Moment} {K : Coupling σ}

section
variable (h : Asks ctx K)
include h

theorem join_related (room : String) :
    K.Holds Eq (join ctx room) (join (ctx.timed moment') room) := by
  unfold join
  refine .bind (h.perform (Homeserver.serves_join room) rfl) fun answer => ?_
  cases answer with
  | ok _ => exact h.notice moment' _
  | error e => exact h.notice moment' _

theorem leave_related (target : String) :
    K.Holds Eq (leave ctx target) (leave (ctx.timed moment') target) := by
  unfold leave
  dsimp only
  refine .ite (.bind (h.perform (Homeserver.serves_resolveAlias target) rfl) fun room => ?_)
    (.bind (.pure _) fun room => ?_)
  all_goals
    cases room with
    | error e => exact h.notice moment' _
    | ok room =>
      refine .bind (h.perform (Homeserver.serves_leave room) rfl) fun answer => ?_
      cases answer with
      | ok _ => exact h.notice moment' _
      | error e => exact h.notice moment' _

theorem redactIn_related (user reason room : String) :
    K.Holds Eq (redactIn ctx user reason room) (redactIn (ctx.timed moment') user reason room) := by
  unfold redactIn
  refine .bind (h.perform (Homeserver.serves_redact room user reason) rfl) fun answer => ?_
  cases answer with
  | ok _ => exact .pure _
  | error e => exact h.notice moment' _

theorem redact_related (user reason : String) :
    K.Holds Eq (redact ctx user reason) (redact (ctx.timed moment') user reason) := by
  unfold redact
  refine h.membership fun w v hwv => ?_
  rw [hwv]
  dsimp only
  exact .ite ((h.notice moment' _).bind fun _ => .forM (redactIn_related h user reason) _)
    (.forM (redactIn_related h user reason) _)

/-- What is shown of the result of a command. -/
theorem acknowledge_related (message : CommandMessage)
    (result : Except CommandError Acknowledgement) :
    K.Holds Eq (acknowledge ctx message result)
      (acknowledge (ctx.timed moment') message result) := by
  match result with
  | .ok .reaction => exact (h.react moment' _).bind fun _ => .pure _
  | .ok .quiet => exact .pure _
  | .error e => exact (h.notice moment' _).bind fun _ => .pure _

/-- **A command that neither changes a list nor kicks nor looks something up only asks things of the
homeserver.** -/
theorem execute_asks {c : Command} (hc : c.change? = none)
    (hk : ∀ force pattern reason, c ≠ .kick force pattern reason)
    (hl : ∀ target, c ≠ .lookUp target) (actor : String) :
    K.Holds Eq (execute ctx actor c) (execute (ctx.timed moment') actor c) := by
  cases c with
  | join rooms => exact .bind (.forM (join_related h) rooms) fun _ => .pure _
  | leave targets => exact .bind (.forM (leave_related h) targets) fun _ => .pure _
  | redact user reason => exact .bind (redact_related h user reason) fun _ => .pure _
  | kick force pattern reason => exact absurd rfl (hk force pattern reason)
  | lookUp target => exact absurd rfl (hl target)
  | ban | remove | addUnban => cases hc

end

section
variable (h : Respects ctx moment' K)
include h

theorem kick_related (force : Bool) (pattern reason actor : String) :
    K.Holds Eq (kick ctx force pattern reason actor)
      (kick (ctx.timed moment') force pattern reason actor) := by
  unfold kick
  split
  · exact .pure _
  · refine .bind (Kick.run_related h _ reason force actor) fun report => ?_
    cases report <;> exact .pure _

/-- **A command that changes no list and looks nothing up goes on alike.** -/
theorem execute_related {c : Command} (hc : c.change? = none) (hl : ∀ target, c ≠ .lookUp target)
    (actor : String) :
    K.Holds Eq (execute ctx actor c) (execute (ctx.timed moment') actor c) := by
  by_cases hk : ∃ force pattern reason, c = .kick force pattern reason
  · obtain ⟨force, pattern, reason, rfl⟩ := hk
    exact kick_related h force pattern reason actor
  · exact execute_asks h.toAsks hc (fun force pattern reason heq => hk ⟨_, _, _, heq⟩) hl actor

end

/-- **To look something up** is to find out whose digest it is, if it is one, and to tell what is
known. -/
theorem lookUp_related
    (hreverse : K.Sees fun w v => ∀ digest, w.store.reverse digest = v.store.reverse digest)
    (hnotice : ∀ text, K.Holds Eq (notice ctx text) (notice (ctx.timed moment') text))
    (hdescribe : ∀ kind entity, K.Holds Eq (LookUp.describe ctx kind entity)
      (LookUp.describe (ctx.timed moment') kind entity)) (target : String) :
    K.Holds Eq (lookUp ctx target) (lookUp (ctx.timed moment') target) := by
  have hsubject :
      K.Holds Eq (LookUp.subject ctx target) (LookUp.subject (ctx.timed moment') target) := by
    unfold LookUp.subject
    split
    · exact .pure _
    · refine hreverse fun w v hwv => ?_
      rw [hwv]
      split
      · exact (hnotice _).bind fun _ => .pure _
      · exact (hnotice _).bind fun _ => .pure _
  unfold lookUp
  refine .bind hsubject fun subject => ?_
  cases subject with
  | none => exact .pure _
  | some entity =>
    dsimp only
    cases classify entity with
    | error e => exact .pure _
    | ok kind => exact (hdescribe kind entity).bind fun _ => .pure _

/-- **To look something up beside itself**: it only shows notices, and looks at the time. -/
theorem lookUp_related_self (hsame : K.Sees Eq)
    (hnotice : ∀ text, K.Holds Eq (notice ctx text) (notice ctx text))
    (hmoment : K.Holds Eq (moment ctx) (moment ctx)) (target : String) :
    K.Holds Eq (lookUp ctx target) (lookUp ctx target) := by
  have hdescribe (kind : EntityKind) (entity : String) :
      K.Holds Eq (LookUp.describe ctx kind entity) (LookUp.describe ctx kind entity) := by
    unfold LookUp.describe
    refine hsame fun w _ hw => ?_
    subst hw
    refine .bind hmoment fun now => hsame fun v _ hv => ?_
    subst hv
    dsimp only
    exact .ite ((hnotice _).bind fun _ => hnotice _) (hnotice _)
  have hreverse : K.Sees fun w v => ∀ digest, w.store.reverse digest = v.store.reverse digest :=
    fun hnext => hsame fun w _ hw => hnext w _ fun _ => hw ▸ rfl
  have hrelated : K.Holds Eq (lookUp ctx target) (lookUp (ctx.timed ctx.moment) target) :=
    lookUp_related hreverse hnotice hdescribe target
  exact hrelated

/-- Looking something up is not marked by a reaction. -/
theorem lookUp_fst (ctx : Context σ) (target : String) (w : World σ) :
    (lookUp ctx target w).1 = .ok .quiet ∨ ∃ e, (lookUp ctx target w).1 = .error e := by
  unfold lookUp
  rw [bind_apply]
  cases (LookUp.subject ctx target w).1 with
  | none => exact .inl rfl
  | some entity =>
    dsimp only
    cases classify entity with
    | error e => exact .inr ⟨e, rfl⟩
    | ok kind => exact .inl rfl

end Commands
end Moderation

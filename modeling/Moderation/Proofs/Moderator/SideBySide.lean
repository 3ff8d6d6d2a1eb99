import Moderation.Proofs.Moderator.Session
import Moderation.Proofs.Store.Undated
/-!
# Messages that are taken side by side

A message may be taken in two worlds, at different times, and come to the same in both up to the
events that carry rules.  How much of an event is compared is a parameter, a function of it: the
identity compares events, a constant does not.

A coupling carries messages (`Act.Carries`) if it sees the stores apart from their times, and if
what is published, settled or ingested does alike.  Then every message is taken alike
(`Session.take_related`).  What is settled and ingested changes the store and the audit log only;
where a relation of worlds survives that (`World.Akin`), it does so alike.
-/

namespace Moderation

variable {σ : Type} {ctx : Context σ} {moment' : Nat → Moment} {seen : String → String}

/-! ## What is compared -/

/-- A publication as far as its event is seen. -/
def Published.mapEvent (seen : String → String) (done : Published) : Published :=
  { done with eventId := seen done.eventId }

/-- What came of a report as far as the event of its rule is seen. -/
def ReportOutcome.mapEvent (seen : String → String) : ReportOutcome → ReportOutcome
  | .policy action => .policy { action with eventId := seen action.eventId }
  | outcome => outcome

/-- What came of a message as far as the event of its rule is seen. -/
def Outcome.mapEvent (seen : String → String) : Outcome → Outcome
  | .report result => .report (result.map (ReportOutcome.mapEvent seen))
  | outcome => outcome

/-- An entry as far as its event is seen. -/
def AuditEntry.mapEvent (seen : String → String) (e : AuditEntry) : AuditEntry :=
  { e with eventId := e.eventId.map seen }

theorem Outcome.mapEvent_id (o : Outcome) : o.mapEvent id = o := by
  match o with
  | .report (.ok (.policy _)) => rfl
  | .report (.ok .notice) => rfl
  | .report (.ok .ignored) => rfl
  | .report (.error _) => rfl
  | .status _ => rfl
  | .response _ => rfl

theorem mapEvent_id (e : AuditEntry) : e.mapEvent id = e := by
  simp [AuditEntry.mapEvent]

/-- Results that are mapped to the same are the same error, or are values that are. -/
theorem error_or_ok_of_map_eq {ε α β : Type} {f : α → β} {x y : Except ε α}
    (h : x.map f = y.map f) :
    (∃ e, x = .error e ∧ y = .error e) ∨ ∃ a b, x = .ok a ∧ y = .ok b ∧ f a = f b := by
  match x, y with
  | .error e, .error e' => exact .inl ⟨e, rfl, congrArg _ (Except.error.inj h).symm⟩
  | .ok a, .ok b => exact .inr ⟨a, b, rfl, rfl, Except.ok.inj h⟩
  | .error _, .ok _ => cases (show Except.error _ = Except.ok _ from h)
  | .ok _, .error _ => cases (show Except.ok _ = Except.error _ from h)

/-! ## Couplings that carry messages -/

namespace Act

/-- A coupling of acts that also publish, settle what comes of it, and ingest rules. -/
structure Carries (ctx : Context σ) (moment' : Nat → Moment) (seen : String → String)
    (K : Coupling σ) : Prop extends Respects ctx moment' K where
  store : K.Sees fun w v => w.store.undated = v.store.undated
  publish : ∀ (m : Mutation) (p : Publication),
    K.Holds (fun answer answer' => answer.map seen = answer'.map seen) (m.send ctx p) (m.send ctx p)
  settle : ∀ (m : Mutation) (p : Publication) (actor : String) {answer answer' : Answer String},
    answer.map seen = answer'.map seen →
      K.Holds Eq (m.settle ctx p actor answer) (m.settle (ctx.timed moment') p actor answer')
  ingest : ∀ r : PolicyRecord, K.Holds Eq (Service.takePolicy r : Act σ Response)
    (Service.takePolicy r)

end Act

/-- Worlds whose members are the same and whose stores differ in times alone.  They stay so when
entries are written into their audit logs that differ in times and in what is not seen of events,
and when the same is published in their stores or remembered there, be it at other times. -/
structure World.Akin (seen : String → String) (R : World σ → World σ → Prop) : Prop where
  membership : ∀ w v, R w v → w.membership = v.membership
  store : ∀ w v, R w v → w.store.undated = v.store.undated
  logged : ∀ w v, R w v → ∀ e e' : AuditEntry,
    e.undated.mapEvent seen = e'.undated.mapEvent seen → ∀ n n',
      R { w with audit := w.audit.append e, ticks := n }
        { v with audit := v.audit.append e', ticks := n' }
  publish : ∀ w v, R w v → ∀ r r' : PolicyRecord, r.undated = r'.undated →
    R { w with store := w.store.publish r } { v with store := v.store.publish r' }
  remember : ∀ w v, R w v → ∀ user,
    R { w with store := w.store.remember user } { v with store := v.store.remember user }

namespace World.Akin

open Act
variable {R : World σ → World σ → Prop} (h : World.Akin seen R)
include h

theorem entry {α : Type} (e : Moment → AuditEntry) (a : α)
    (he : ∀ m m', (e m).undated = (e m').undated) :
    (Coupling.ofWorlds R).Holds Eq (do Act.audit (e (← Act.moment ctx)); return a)
      (do Act.audit (e (← Act.moment (ctx.timed moment'))); return a) := by
  intro w v hwv
  simp only [bind_apply, moment_apply, audit_apply, pure_apply]
  exact ⟨trivial, h.logged w v hwv _ _ (congrArg (AuditEntry.mapEvent seen) (he _ _)) _ _⟩

theorem recordIn {w v : World σ} (hwv : R w v) (m : Mutation) (p : Publication) (sender : String)
    (timestamp timestamp' : Int64) :
    R { w with store := m.recordIn p sender timestamp w.store }
      { v with store := m.recordIn p sender timestamp' v.store } := by
  have hpublish :=
    h.publish w v hwv (m.record p sender timestamp) (m.record p sender timestamp') rfl
  unfold Mutation.recordIn
  split
  · exact h.remember _ _ hpublish m.entity
  · exact hpublish

/-- What came of a publication is settled alike. -/
theorem settle (m : Mutation) (p : Publication) (actor : String) {answer answer' : Answer String}
    (hanswer : answer.map seen = answer'.map seen) :
    (Coupling.ofWorlds R).Holds Eq (m.settle ctx p actor answer)
      (m.settle (ctx.timed moment') p actor answer') := by
  intro w v hwv
  rw [m.settle_apply, m.settle_apply]
  refine ⟨rfl, ?_⟩
  -- The entry is written first here, which makes no difference: it does not touch the store.
  have hlogged := h.logged w v hwv (m.entry p actor answer (ctx.moment w.ticks))
    (m.entry p actor answer' (moment' v.ticks))
  rcases error_or_ok_of_map_eq hanswer with ⟨e, rfl, rfl⟩ | ⟨event, event', rfl, rfl, hevent⟩
  · refine hlogged ?_ (w.ticks + 1) (v.ticks + 1)
    simp only [AuditEntry.mapEvent, AuditEntry.undated, Mutation.entry]
  · refine h.recordIn (hlogged ?_ (w.ticks + 1) (v.ticks + 1)) m p ctx.settings.botUser _ _
    simp only [AuditEntry.mapEvent, AuditEntry.undated, Mutation.entry, Except.toOption,
      Option.map_some, hevent]

/-- A rule is ingested alike. -/
theorem ingest (r : PolicyRecord) :
    (Coupling.ofWorlds R).Holds Eq (Service.takePolicy r : Act σ Response)
      (Service.takePolicy r) := by
  unfold Service.takePolicy
  refine .ite (.pure _) (.bind ?_ fun _ => .pure _)
  intro w v hwv
  refine ⟨rfl, ?_⟩
  simp only [modify_apply]
  split
  · exact h.publish _ _ (h.remember w v hwv r.content.entity) r r rfl
  · exact h.publish w v hwv r r rfl

end World.Akin

/-! ## What is done alike -/

open Act
variable {K : Coupling σ}

/-- **A mutation is carried out alike.** -/
theorem Mutation.run_related (h : Carries ctx moment' seen K) (m : Mutation) (actor : String) :
    K.Holds (fun result result' => result.map (Published.mapEvent seen) =
      result'.map (Published.mapEvent seen))
      (m.run ctx actor) (m.run (ctx.timed moment') actor) := by
  unfold run
  refine h.store fun w v hwv => ?_
  have hplan : m.plan (ctx.timed moment').watched v.store = m.plan ctx.watched w.store :=
    (m.plan_congr ctx.watched hwv).symm
  rw [hplan]
  cases m.plan ctx.watched w.store with
  | error c => exact K.of_pure rfl
  | ok p =>
    refine K.of_bind (h.publish m p) (fun _ => rfl) fun answer answer' hanswer => ?_
    refine .bind (h.settle m p actor hanswer) fun _ => ?_
    rcases error_or_ok_of_map_eq hanswer with ⟨e, rfl, rfl⟩ | ⟨event, event', rfl, rfl, hevent⟩
    · exact K.of_pure rfl
    · refine K.of_pure ?_
      simp only [Except.map, Published.mapEvent, hevent]

namespace Reports

theorem fetchSender_related (h : Asks ctx K) (report : Report) :
    K.Holds Eq (fetchSender ctx report) (fetchSender (ctx.timed moment') report) := by
  unfold fetchSender
  cases report.roomId with
  | none => exact .pure _
  | some room =>
    cases report.eventId with
    | none => exact .pure _
    | some event =>
      refine .bind (h.perform (Homeserver.serves_eventSender room event) rfl) fun answer => ?_
      cases answer with
      | ok sender => exact .pure _
      | error e => exact (h.notice moment' _).bind fun _ => .pure _

/-- What comes of two reports is the same, as far as the events of their rules are seen. -/
def SameResult (seen : String → String) (result result' : Except ReportError ReportOutcome) :
    Prop :=
  result.map (ReportOutcome.mapEvent seen) = result'.map (ReportOutcome.mapEvent seen)

variable (h : Carries ctx moment' seen K)
include h

theorem banIn_related (reporter entity reason : String) (list : WatchedList) :
    K.Holds (SameResult seen) (banIn ctx reporter entity reason list)
      (banIn (ctx.timed moment') reporter entity reason list) := by
  unfold banIn
  refine K.of_bind (Mutation.run_related h _ reporter) (fun _ => rfl)
    fun result result' hresult => ?_
  rcases error_or_ok_of_map_eq hresult with ⟨e, rfl, rfl⟩ | ⟨done, done', rfl, rfl, hdone⟩
  · cases e with
    | conflict c => exact K.of_pure rfl
    | unpublished e => exact (h.notice moment' _).bind fun _ => K.of_pure rfl
  · obtain ⟨hpublication, hevent⟩ := Published.mk.inj hdone
    refine (h.notice moment' _).bind fun _ => K.of_pure ?_
    simp only [SameResult, Except.map, ReportOutcome.mapEvent, actionOf, hpublication, hevent]

theorem ban_related (reporter entity shortcode reason : String) :
    K.Holds (SameResult seen) (ban ctx reporter entity shortcode reason)
      (ban (ctx.timed moment') reporter entity shortcode reason) := by
  unfold ban
  refine h.store fun w v hwv => ?_
  have hconflict : Decision.reportConflict (w.store.find (query ctx entity)) entity =
      Decision.reportConflict (v.store.find (query (ctx.timed moment') entity)) entity := by
    rw [← Decision.reportConflict_undated, ← Decision.reportConflict_undated (v.store.find _),
      ← Store.find_undated, ← Store.find_undated, hwv]
    rfl
  rw [hconflict]
  split
  · exact K.of_pure rfl
  · have hlist : (ctx.timed moment').listNamed shortcode = ctx.listNamed shortcode := rfl
    rw [hlist]
    cases ctx.listNamed shortcode with
    | none => exact (h.notice moment' _).bind fun _ => K.of_pure rfl
    | some list => exact banIn_related h reporter entity reason list

/-- **A report is handled alike.** -/
theorem handle_related (report : Report) :
    K.Holds (SameResult seen) (handle ctx report) (handle (ctx.timed moment') report) := by
  unfold handle
  refine .bind (fetchSender_related h.toAsks report) fun result => ?_
  cases result with
  | error e => exact K.of_pure rfl
  | ok sender =>
    dsimp only
    cases target report sender with
    | none => exact (h.notice moment' _).bind fun _ => K.of_pure rfl
    | some entity =>
      refine .ite ?_ ((h.notice moment' _).bind fun _ => K.of_pure rfl)
      unfold escalate
      split
      · exact K.of_pure rfl
      · exact ban_related h _ entity _ _
      · exact K.of_pure rfl
      · exact K.of_pure rfl

end Reports

namespace Commands

variable (h : Carries ctx moment' seen K)
include h

theorem mutate_related (shortcode entity : String) (change : Change) (actor : String) :
    K.Holds Eq (mutate ctx shortcode entity change actor)
      (mutate (ctx.timed moment') shortcode entity change actor) := by
  have hmutation : mutation (ctx.timed moment') shortcode entity change =
    mutation ctx shortcode entity change := rfl
  unfold mutate
  rw [hmutation]
  cases mutation ctx shortcode entity change with
  | error e => exact .pure _
  | ok m =>
    refine K.of_bind (Mutation.run_related h m actor) (fun _ => rfl)
      fun result result' hresult => ?_
    rcases error_or_ok_of_map_eq hresult with ⟨e, rfl, rfl⟩ | ⟨done, done', rfl, rfl, -⟩
    · exact .pure _
    · exact .pure _

theorem execute_carried {command : Command}
    (hlookUp : ∀ target, command = .lookUp target →
      K.Holds Eq (lookUp ctx target) (lookUp (ctx.timed moment') target)) (actor : String) :
    K.Holds Eq (execute ctx actor command) (execute (ctx.timed moment') actor command) := by
  cases hchange : command.change? with
  | none =>
    by_cases hl : ∃ target, command = .lookUp target
    · obtain ⟨target, rfl⟩ := hl
      exact hlookUp target rfl
    · exact execute_related h.toRespects hchange (fun target heq => hl ⟨target, heq⟩) actor
  | some named =>
    obtain ⟨shortcode, entity, change⟩ := named
    rw [execute_of_change hchange, execute_of_change hchange]
    exact mutate_related h shortcode entity change actor

/-- **A command is handled alike**, if what it looks up is looked up alike. -/
theorem handle_related {message : CommandMessage}
    (hlookUp : ∀ target, Command.parse message.body = .ok (some (.lookUp target)) →
      K.Holds Eq (lookUp ctx target) (lookUp (ctx.timed moment') target)) :
    K.Holds Eq (handle ctx message) (handle (ctx.timed moment') message) := by
  have hsettings : (ctx.timed moment').settings = ctx.settings := rfl
  unfold handle
  rw [hsettings]
  split
  · exact .pure _
  · exact .pure _
  · split
    · exact .pure _
    · next command hparse =>
      have hexecute := execute_carried h (fun target heq => hlookUp target (heq ▸ hparse))
        message.sender
      exact hexecute.bind fun result => acknowledge_related h.toAsks message result
    · exact acknowledge_related h.toAsks message _

end Commands

namespace Session

/-- **A message is taken alike**, if what it looks up is looked up alike and its members, if it has
any, change alike. -/
theorem take_related (h : Carries ctx moment' seen K) {message : Message}
    (hlookUp : ∀ c target, message = .command c →
      Command.parse c.body = .ok (some (.lookUp target)) →
      K.Holds Eq (Commands.lookUp ctx target) (Commands.lookUp (ctx.timed moment') target))
    (hmembership : ∀ u, message = .membership u →
      K.Holds Eq (Service.takeMembership u : Act σ Response) (Service.takeMembership u)) :
    K.Holds (fun outcome outcome' => outcome.mapEvent seen = outcome'.mapEvent seen)
      (take ctx message) (take (ctx.timed moment') message) := by
  match message with
  | .command c =>
    refine (Commands.handle_related h fun target => hlookUp c target rfl).map (fun _ => rfl)
      fun _ _ hstatus => ?_
    rw [hstatus]
  | .report r =>
    exact (Reports.handle_related h r).map (fun _ => rfl)
      fun _ _ hresult => congrArg Outcome.report hresult
  | .policy r => exact (h.ingest r).map (fun _ => rfl) fun _ _ hresponse => hresponse ▸ rfl
  | .membership u =>
    exact (hmembership u rfl).map (fun _ => rfl) fun _ _ hresponse => hresponse ▸ rfl

end Session
end Moderation

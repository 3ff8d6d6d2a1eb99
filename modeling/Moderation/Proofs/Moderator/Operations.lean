import Moderation.Moderator.Interleaving
import Moderation.Proofs.Moderator.Commanding
import Moderation.Proofs.Moderator.Reporting
/-!
# Requests that are carried out alone

A request to change a list is a command or a report that asks for a ban.  An **operation** is a
request for a mutation of one list and one entity, together with the answer that its publication is
going to get; it can take its steps beside others (`Operation.task`) or be carried out alone
(`Operation.run`).  Carried out alone it does what its mutation does (`Operation.run_mutation`),
also if it is a report: that one looks at the store first, but sees what its mutation sees
(`Reports.ban_eq_banIn`).  So it is refused where its mutation is (`Operation.run_refused`) and
otherwise publishes once (`Operation.run_planned`).
-/

namespace Moderation

variable {σ : Type} {ctx : Context σ}

/-- What a world has asked the homeserver to publish. -/
def World.publications (w : World σ) : List Effect := w.effects.filter Effect.isPublication

theorem World.publications_asked {effect : Effect} (h : effect.isPublication = false) (server : σ)
    (w : World σ) : (w.asked effect server).publications = w.publications := by
  unfold publications World.asked
  rw [List.filter_append, List.filter_cons_of_neg (by simp [h])]
  exact List.append_nil _

theorem World.publications_shown (ctx : Context σ) (text : String) (w : World σ) :
    (w.shown ctx text).publications = w.publications :=
  publications_asked rfl _ w

theorem World.publications_published (ctx : Context σ) (m : Mutation) (p : Publication)
    (actor : String) (w : World σ) :
    (w.published ctx m p actor).publications = w.publications ++ [m.effect p] := by
  unfold publications published settled asked
  rw [List.filter_append]
  rfl

/-- The mutation of a report is refused where the report looks at the store and finds something. -/
theorem Mutation.plan_of_reportConflict {m : Mutation} {reason : String} {watched : List String}
    {store : Store} {conflict : Conflict} (hm : m.change = .reportBan reason)
    (h : Decision.reportConflict (store.find (m.query watched)) m.entity = .error conflict) :
    m.plan watched store = .error conflict := by
  have hreport :
      Decision.reportBan (store.find (m.query watched)) m.list.roomId m.entity =
        .error conflict := by
    rw [Decision.reportBan, h]
  unfold plan decide
  simp only [hm, hreport]
  rfl

/-- A report that is handled alone sees the same when it looks at the store for the second time. -/
theorem Reports.ban_eq_banIn {shortcode : String} {list : WatchedList}
    (hl : ctx.listNamed shortcode = some list) (reporter entity reason : String) (w : World σ) :
    ban ctx reporter entity shortcode reason w = banIn ctx reporter entity reason list w := by
  unfold ban
  rw [Act.bind_apply, Act.get_apply]
  cases hconflict : Decision.reportConflict (w.store.find (query ctx entity)) entity with
  | error conflict =>
    have hplan : (banMutation list entity reason).plan ctx.watched w.store = .error conflict :=
      Mutation.plan_of_reportConflict rfl hconflict
    unfold banIn
    rw [Act.bind_apply, Mutation.run_refused hplan]
  | ok _ => simp only [hl]

/-- A context whose homeserver has one answer to whatever is published. -/
def Context.answering (ctx : Context σ) (answer : Answer String) : Context σ :=
  { ctx with homeserver := { ctx.homeserver with publish := fun _ _ _ _ => pure answer } }

/-- A request to change a list: a command, or a report that asks for a ban. -/
inductive ChangeRequest where
  | command (c : Command) (actor : String)
  | report (reporter entity shortcode reason : String)

/-- What came of a request. -/
inductive ChangeResult where
  | command (result : Except CommandError Acknowledgement)
  | report (result : Except ReportError ReportOutcome)

namespace ChangeRequest

/-- The mutation that is requested. -/
def mutation? (ctx : Context σ) : ChangeRequest → Option Mutation
  | .command c _ =>
    c.change?.bind fun (shortcode, entity, change) =>
      (Commands.mutation ctx shortcode entity change).toOption
  | .report _ entity shortcode reason =>
    (ctx.listNamed shortcode).map fun list => Reports.banMutation list entity reason

/-- Carries out a request. -/
def run (ctx : Context σ) : ChangeRequest → Act σ ChangeResult
  | .command c actor => .command <$> Commands.execute ctx actor c
  | .report reporter entity shortcode reason =>
    .report <$> Reports.ban ctx reporter entity shortcode reason

/-- What came of a request, from what came of its mutation. -/
def resultOf (m : Mutation) (result : Except MutationFailure Published) :
    ChangeRequest → ChangeResult
  | .command _ _ =>
    .command (match result with
      | .ok _ => .ok .reaction
      | .error e => .error (e.toCommandError m))
  | .report _ _ _ _ =>
    .report (match result with
      | .ok done => .ok (.policy (Reports.actionOf m done))
      | .error e => .error (.ofFailure e))

variable {x : ChangeRequest} {m : Mutation}

theorem run_command {c : Command} (actor : String)
    (h : (ChangeRequest.command c actor).mutation? ctx = some m) (w : World σ) :
    (ChangeRequest.command c actor).run ctx w =
      (resultOf m (m.run ctx actor w).1 (.command c actor), (m.run ctx actor w).2) := by
  obtain ⟨⟨shortcode, entity, change⟩, hchange, hm⟩ := Option.bind_eq_some_iff.1 h
  have hmutate := Commands.mutate_eq (w := w) (toOption_eq_some.1 hm) actor
  rw [← Commands.execute_of_change hchange] at hmutate
  exact congrArg (fun x => (ChangeResult.command x.1, x.2)) hmutate

theorem run_report {reporter entity shortcode reason : String}
    (h : (ChangeRequest.report reporter entity shortcode reason).mutation? ctx = some m) :
    ∃ list, m = Reports.banMutation list entity reason ∧ ∀ w,
      (ChangeRequest.report reporter entity shortcode reason).run ctx w =
        (.report (Reports.banIn ctx reporter entity reason list w).1,
          (Reports.banIn ctx reporter entity reason list w).2) := by
  obtain ⟨list, hl, hm⟩ := Option.map_eq_some_iff.1 h
  refine ⟨list, hm.symm, fun w => ?_⟩
  rw [← Reports.ban_eq_banIn hl]
  rfl

/-- **A request that is carried out does what its mutation does**, and shows notices. -/
theorem run_mutation (h : x.mutation? ctx = some m) :
    ∃ actor, ∀ w : World σ,
      let after := m.run ctx actor w
      (x.run ctx w).1 = x.resultOf m after.1 ∧ (x.run ctx w).2.store = after.2.store ∧
        (x.run ctx w).2.publications = after.2.publications := by
  match x with
  | .command c actor =>
    refine ⟨actor, fun w => ?_⟩
    rw [run_command actor h]
    exact ⟨rfl, rfl, rfl⟩
  | .report reporter entity shortcode reason =>
    obtain ⟨list, hm, hrun⟩ := run_report h
    refine ⟨reporter, fun w => ?_⟩
    dsimp only
    rw [hrun]
    unfold Reports.banIn
    rw [Act.bind_apply, ← hm]
    rcases m.run ctx reporter w with ⟨result, w'⟩
    match result with
    | .ok done => exact ⟨rfl, rfl, World.publications_shown _ _ _⟩
    | .error (.conflict c) => exact ⟨rfl, rfl, rfl⟩
    | .error (.unpublished e) => exact ⟨rfl, rfl, World.publications_shown _ _ _⟩

end ChangeRequest

/-- A request for a mutation of a list about an entity, and the answer that its publication is going
to get. -/
structure Operation (ctx : Context σ) (listRoom entity : String) where
  request : ChangeRequest
  mutation : Mutation
  answer : Answer String
  timestamp : Int64
  requests : request.mutation? ctx = some mutation
  listRoom_eq : mutation.list.roomId = listRoom
  entity_eq : mutation.entity = entity

namespace Operation

variable {listRoom entity : String} (o : Operation ctx listRoom entity)

/-- An operation as it takes its steps beside others. -/
def task (phase : Phase) : Task where
  mutation := o.mutation
  answer := o.answer
  timestamp := o.timestamp
  phase := phase

/-- An operation as it is carried out alone. -/
def run : Act σ ChangeResult := o.request.run (ctx.answering o.answer)

/-- What came of an operation, from what came of its mutation. -/
def resultOf (result : Except MutationFailure Published) : ChangeResult :=
  o.request.resultOf o.mutation result

theorem lockKey_task (phase : Phase) : (o.task phase).lockKey = { listRoom, entity } := by
  simp only [Task.lockKey, task, o.listRoom_eq, o.entity_eq]

variable {o}

/-- **An operation that is carried out alone does what its mutation does**, and shows notices. -/
theorem run_mutation (o : Operation ctx listRoom entity) :
    ∃ actor, ∀ w : World σ,
      let after := o.mutation.run (ctx.answering o.answer) actor w
      (o.run w).1 = o.resultOf after.1 ∧ (o.run w).2.store = after.2.store ∧
        (o.run w).2.publications = after.2.publications := by
  have hrequests : o.request.mutation? (ctx.answering o.answer) = some o.mutation := o.requests
  exact ChangeRequest.run_mutation hrequests

variable {w : World σ}

/-- **An operation that is refused changes no list.** -/
theorem run_refused {conflict : Conflict}
    (h : o.mutation.plan ctx.watched w.store = .error conflict) :
    (o.run w).1 = o.resultOf (.error (.conflict conflict)) ∧ (o.run w).2.store = w.store ∧
      (o.run w).2.publications = w.publications := by
  obtain ⟨actor, hrun⟩ := o.run_mutation
  have hplan : o.mutation.plan (ctx.answering o.answer).watched w.store = .error conflict := h
  have hrefused := Mutation.run_refused hplan actor
  have hafter := hrun w
  rw [hrefused] at hafter
  exact hafter

/-- **An operation that is not refused publishes once**, and what it publishes is recorded if that
succeeds. -/
theorem run_planned {p : Publication} (h : o.mutation.plan ctx.watched w.store = .ok p) :
    (o.run w).1 = o.resultOf (Task.result p o.answer) ∧
      (∃ timestamp, (o.run w).2.store =
        if o.answer.toOption.isSome then
          o.mutation.recordIn p ctx.settings.botUser timestamp w.store
        else w.store) ∧
      (o.run w).2.publications = w.publications ++ [o.mutation.effect p] := by
  obtain ⟨actor, hrun⟩ := o.run_mutation
  have hanswer : o.mutation.answer (ctx.answering o.answer) p w = o.answer := rfl
  have hplan : o.mutation.plan (ctx.answering o.answer).watched w.store = .ok p := h
  have hplanned := Mutation.run_planned hplan actor
  have hafter := hrun w
  rw [hplanned, hanswer] at hafter
  obtain ⟨hresult, hstore, hpublications⟩ := hafter
  refine ⟨?_, ⟨(ctx.moment w.ticks).now, ?_⟩, ?_⟩
  · rw [hresult]
    cases o.answer <;> rfl
  · rw [hstore]
    unfold World.published World.settled
    rw [hanswer]
    cases o.answer <;> rfl
  · rw [hpublications]
    exact World.publications_published _ _ _ _ _

end Operation
end Moderation

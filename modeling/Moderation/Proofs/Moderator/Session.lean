import Moderation.Proofs.Moderator.Operations
import Moderation.Service.Message
/-!
# Sessions

In a **session** messages are taken one after another, and each has an outcome.  A command or a
report may ask for a mutation (`Session.asked?`), and takes one of four **courses**
(`Session.Course`).  It asks for none; or for one that is refused; or for one whose publication
fails; or for one that is **done**, and then what was planned has been published and is in the
store.  Each course says what was published and what the store is afterwards, and only in the last
does the outcome say that something was done (`Outcome.isDone`).
-/

namespace Moderation

variable {σ : Type} {ctx : Context σ}

/-- What came of a message. -/
inductive Outcome where
  | status (status : CommandStatus)
  | report (result : Except ReportError ReportOutcome)
  | response (response : Response)

/-- Whether something was done: a command that completed, a report that was acted upon. -/
def Outcome.isDone : Outcome → Bool
  | .status .completed => true
  | .report (.ok (.policy _)) => true
  | _ => false

theorem Outcome.completed_of_isDone {status : CommandStatus}
    (h : (Outcome.status status).isDone = true) : status = .completed := by
  cases status with
  | completed => rfl
  | _ => cases h

/-- In one world nothing more has been published than in another, and the store is the same. -/
structure World.Still (w v : World σ) : Prop where
  store : v.store = w.store
  publications : v.publications = w.publications

theorem World.Still.refl (w : World σ) : w.Still w := ⟨rfl, rfl⟩

/-- This lasts while nothing is published. -/
theorem World.still_keeps (w : World σ) : Act.Keeps (World.Still w) where
  asked he server v h := ⟨h.store, (publications_asked he server v).trans h.publications⟩
  logged _ _ _ h := ⟨h.store, h.publications⟩
  ticked _ _ h := ⟨h.store, h.publications⟩

namespace Reports

variable {report : Report} {w : World σ}

/-- The mutation that a report asks for, which depends on who sent its event. -/
def asked? (ctx : Context σ) (report : Report) (w : World σ) : Option Mutation :=
  match (fetchSender ctx report w).1 with
  | .error _ => none
  | .ok sender =>
    match target report sender, ReportCommand.parse report.reason with
    | some entity, .ok (some (.ban shortcode reason)) =>
      if ctx.isAdmin report.reporter then
        (ctx.listNamed shortcode).map fun list => banMutation list entity reason
      else none
    | _, _ => none

theorem asked?_eq_some {m : Mutation} (h : asked? ctx report w = some m) :
    ∃ shortcode list entity reason, ctx.listNamed shortcode = some list ∧
      m = banMutation list entity reason := by
  unfold asked? at h
  split at h
  · cases h
  · split at h
    · next entity shortcode reason _ _ =>
      split at h
      · obtain ⟨list, hl, rfl⟩ := Option.map_eq_some_iff.1 h
        exact ⟨shortcode, list, entity, reason, hl, rfl⟩
      · cases h
    · cases h

theorem Located.store_eq {w₁ : World σ} {sender target : Option String}
    (h : Located ctx report w sender target w₁) : w₁.store = w.store := by
  cases h <;> rfl

/-- Where a report comes to a publication, it has asked for the mutation that is published. -/
theorem asked?_of_located {w₁ : World σ} {sender : Option String}
    {entity word shortcode first : String} {rest : List String} {list : WatchedList}
    (hl : Located ctx report w sender (some entity) w₁)
    (hadmin : ctx.isAdmin report.reporter = true)
    (hcommand : ReportCommand.isCommand report.reason = true)
    (hwords : Text.words report.reason = word :: shortcode :: first :: rest)
    (hv : ReportCommand.verb word = "ban")
    (hlist : ctx.listNamed shortcode = some list) :
    asked? ctx report w = some (banMutation list entity (Text.unwords (first :: rest))) := by
  obtain ⟨hfetch, htarget⟩ := hl.fetchSender_eq
  unfold asked?
  simp only [hfetch, htarget, parse_of_words hcommand hwords, ofWords_cons, if_pos hv,
    if_pos hadmin, hlist,
    Option.map_some]

theorem Located.keeps {P : World σ → Prop} (hP : Act.Keeps P) {sender target : Option String}
    {w₁ : World σ} (h : Located ctx report w sender target w₁) (hw : P w) : P w₁ := by
  cases h with
  | named => exact hw
  | sent => exact hP.asked rfl _ w hw

/-- **A report that asks for no mutation publishes nothing**: what lasts while nothing is published
lasts while it is handled. -/
theorem handle_keeps {P : World σ → Prop} (hP : Act.Keeps P) (h : asked? ctx report w = none)
    (hw : P w) : P (handle ctx report w).2 := by
  obtain ⟨result, w', hcase⟩ := exists_handled ctx report w
  rw [hcase.handle_eq]
  cases hcase with
  | unfetched => exact hP.asked rfl _ _ (hP.asked rfl _ w hw)
  | shown hl => exact hP.asked rfl _ _ (hl.keeps hP hw)
  | escalated hl hadmin hcommand hwords he =>
    have hlocated := hl.keeps hP hw
    cases he with
    | ignored | incomplete | unbanned | banned => exact hlocated
    | unlisted => exact hP.asked rfl _ _ hlocated
    | published hv hargs _ hlist | unpublished hv hargs _ hlist =>
      subst hargs
      rw [asked?_of_located hl hadmin hcommand hwords hv hlist] at h
      cases h

/-- A report that asks for a mutation is handled as that ban, once its target is found. -/
theorem handle_of_asked? {m : Mutation} (h : asked? ctx report w = some m) :
    ∃ sender w₁ list entity reason, Located ctx report w sender (some entity) w₁ ∧
      m = banMutation list entity reason ∧
      handle ctx report w = banIn ctx report.reporter entity reason list w₁ := by
  rcases exists_located ctx report w with
    ⟨room, event, e, hroom, hevent, he⟩ | ⟨sender, found, w₁, hl⟩
  · unfold asked? at h
    rw [fetchSender_of_error hroom hevent he] at h
    cases h
  · obtain ⟨hfetch, htarget⟩ := hl.fetchSender_eq
    simp only [asked?, hfetch, htarget] at h
    split at h
    · next entity shortcode reason hparse =>
      split at h
      · next hadmin =>
        obtain ⟨list, hlist, rfl⟩ := Option.map_eq_some_iff.1 h
        have hcommand : ReportCommand.isCommand report.reason = true := by
          by_cases hcommand : ReportCommand.isCommand report.reason = true
          · exact hcommand
          · rw [ReportCommand.parse, if_neg hcommand] at hparse
            cases hparse
        refine ⟨sender, w₁, list, entity, reason, hl, rfl, ?_⟩
        rw [← ban_eq_banIn hlist]
        unfold handle
        rw [Act.bind_apply, hfetch]
        simp only [htarget, hadmin, hcommand, Bool.and_self, if_true]
        unfold escalate
        rw [hparse]
      · cases h
    · cases h

end Reports

/-- Whether a message is a command or a report. -/
def Message.isRequest : Message → Bool
  | .command _ => true
  | .report _ => true
  | _ => false

namespace Session

/-- Takes a message. -/
def take (ctx : Context σ) : Message → Act σ Outcome
  | .command c => .status <$> Commands.handle ctx c
  | .report r => .report <$> Reports.handle ctx r
  | .policy r => .response <$> Service.takePolicy r
  | .membership u => .response <$> Service.takeMembership u

/-- Takes messages, one after another. -/
def run (ctx : Context σ) (messages : List Message) : Act σ (List Outcome) :=
  messages.mapM (take ctx)

theorem run_cons (message : Message) (messages : List Message) (w : World σ) :
    run ctx (message :: messages) w =
      ((take ctx message w).1 :: (run ctx messages (take ctx message w).2).1,
        (run ctx messages (take ctx message w).2).2) := by
  unfold run
  rw [List.mapM_cons]
  rfl

/-- The mutation that a message asks for. -/
def asked? (ctx : Context σ) : Message → World σ → Option Mutation
  | .command c, _ => Commands.asked? ctx c
  | .report r, w => Reports.asked? ctx r w
  | _, _ => none

/-- The entities that are hashed in a session: those of the mutations that are asked for. -/
def entities (ctx : Context σ) : List Message → World σ → List String
  | [], _ => []
  | message :: messages, w =>
    ((asked? ctx message w).map (·.entity)).toList ++ entities ctx messages (take ctx message w).2

theorem mem_entities_of_asked? {message : Message} {w : World σ} {m : Mutation}
    (h : asked? ctx message w = some m)
    (messages : List Message) : m.entity ∈ entities ctx (message :: messages) w := by
  simp [entities, h]

theorem entities_append (before after : List Message) (w : World σ) :
    entities ctx (before ++ after) w =
      entities ctx before w ++ entities ctx after (run ctx before w).2 := by
  induction before generalizing w with
  | nil => rfl
  | cons message before ih =>
    rw [List.cons_append, entities, ih, ← List.append_assoc, run_cons]
    rfl

variable {message : Message} {w : World σ}

theorem issued_of_asked? {m : Mutation} (h : asked? ctx message w = some m) : m.Issued ctx := by
  match message with
  | .command c => exact Commands.issued_of_asked? h
  | .report r =>
    obtain ⟨shortcode, list, entity, reason, hl, rfl⟩ := Reports.asked?_eq_some h
    exact .report hl entity reason

theorem isRequest_of_asked? {m : Mutation} (h : asked? ctx message w = some m) :
    message.isRequest = true := by
  cases message with
  | command | report => rfl
  | policy | membership => cases h

/-! ## What a request comes to -/

theorem take_command (c : CommandMessage) (w : World σ) :
    take ctx (.command c) w = (.status (Commands.handle ctx c w).1, (Commands.handle ctx c w).2) :=
  rfl

theorem take_report (r : Report) (w : World σ) :
    take ctx (.report r) w = (.report (Reports.handle ctx r w).1, (Reports.handle ctx r w).2) :=
  rfl

/-- What a request comes to. -/
inductive Course (ctx : Context σ) (message : Message) (w : World σ) : Prop
  | unasked (hasked : asked? ctx message w = none) (hstill : w.Still (take ctx message w).2)
  | refused {m : Mutation} {conflict : Conflict} (hasked : asked? ctx message w = some m)
      (hplan : m.plan ctx.watched w.store = .error conflict)
      (hdone : (take ctx message w).1.isDone = false) (hstill : w.Still (take ctx message w).2)
  /-- The homeserver does not take the publication. -/
  | unpublished {m : Mutation} {p : Publication} (hasked : asked? ctx message w = some m)
      (hplan : m.plan ctx.watched w.store = .ok p)
      (hdone : (take ctx message w).1.isDone = false)
      (hstore : (take ctx message w).2.store = w.store)
      (hpublications : (take ctx message w).2.publications = w.publications ++ [m.effect p])
  | done {m : Mutation} {p : Publication} (timestamp : Int64)
      (hasked : asked? ctx message w = some m) (hplan : m.plan ctx.watched w.store = .ok p)
      (hdone : (take ctx message w).1.isDone = true)
      (hstore : (take ctx message w).2.store =
        m.recordIn p ctx.settings.botUser timestamp w.store)
      (hpublications : (take ctx message w).2.publications = w.publications ++ [m.effect p])

/-- What comes of a request that goes on as the mutation that it asks for. -/
theorem course_of_run {m : Mutation} (hasked : asked? ctx message w = some m) (actor : String)
    {v : World σ} (hv : w.Still v)
    (hdone : (take ctx message w).1.isDone = (m.run ctx actor v).1.toOption.isSome)
    (hstill : (m.run ctx actor v).2.Still (take ctx message w).2) : Course ctx message w := by
  cases hplan : m.plan ctx.watched w.store with
  | error conflict =>
    rw [Mutation.run_refused (hv.store ▸ hplan)] at hdone hstill
    exact .refused hasked hplan hdone
      ⟨hstill.store.trans hv.store, hstill.publications.trans hv.publications⟩
  | ok p =>
    rw [Mutation.run_planned (hv.store ▸ hplan)] at hdone hstill
    have hpublications :
        (take ctx message w).2.publications = w.publications ++ [m.effect p] := by
      rw [hstill.publications, World.publications_published, hv.publications]
    cases ha : m.answer ctx p v with
    | error e =>
      rw [ha] at hdone
      exact .unpublished hasked hplan hdone
        ((hstill.store.trans (World.published_store_of_error ha actor)).trans hv.store)
        hpublications
    | ok eventId =>
      rw [ha] at hdone
      have hstore := hstill.store.trans (World.published_store_of_ok ha actor)
      exact .done _ hasked hplan hdone (hv.store ▸ hstore) hpublications

theorem course_command (ctx : Context σ) (c : CommandMessage) (w : World σ) :
    Course ctx (.command c) w := by
  cases hasked : Commands.asked? ctx c with
  | none =>
    exact .unasked hasked (Commands.handle_keeps (World.still_keeps w) hasked w (.refl w))
  | some m =>
    have hhandle := Commands.handle_of_asked? (w := w) hasked
    refine course_of_run hasked c.sender (.refl w) ?_ ?_
    · rw [take_command, hhandle, Commands.acknowledge_fst]
      cases (m.run ctx c.sender w).1 <;> rfl
    · rw [take_command, hhandle]
      exact Commands.acknowledge_keeps (World.still_keeps _) _ _ (.refl _)

theorem course_report (ctx : Context σ) (r : Report) (w : World σ) : Course ctx (.report r) w := by
  cases hasked : Reports.asked? ctx r w with
  | none => exact .unasked hasked (Reports.handle_keeps (World.still_keeps w) hasked (.refl w))
  | some m =>
    obtain ⟨sender, w₁, list, entity, reason, hl, hm, hhandle⟩ := Reports.handle_of_asked? hasked
    have hlocated : w.Still w₁ := hl.keeps (World.still_keeps w) (.refl w)
    rw [Reports.banIn, Act.bind_apply, ← hm] at hhandle
    refine course_of_run hasked r.reporter hlocated ?_ ?_
    · rw [take_report, hhandle]
      match (m.run ctx r.reporter w₁).1 with
      | .ok _ => rfl
      | .error (.conflict _) => rfl
      | .error (.unpublished _) => rfl
    · rw [take_report, hhandle]
      match (m.run ctx r.reporter w₁).1 with
      | .ok _ => exact (World.still_keeps _).asked rfl _ _ (.refl _)
      | .error (.conflict _) => exact .refl _
      | .error (.unpublished _) => exact (World.still_keeps _).asked rfl _ _ (.refl _)

/-- **Every request takes one of the courses.** -/
theorem exists_course (ctx : Context σ) (hreq : message.isRequest = true) (w : World σ) :
    Course ctx message w := by
  match message with
  | .command c => exact course_command ctx c w
  | .report r => exact course_report ctx r w

/-- What was done for a request that asks for a mutation. -/
theorem exists_done {m : Mutation} (hasked : asked? ctx message w = some m)
    (hdone : (take ctx message w).1.isDone = true) :
    ∃ p timestamp, m.plan ctx.watched w.store = .ok p ∧
      (take ctx message w).2.store = m.recordIn p ctx.settings.botUser timestamp w.store ∧
      (take ctx message w).2.publications = w.publications ++ [m.effect p] := by
  cases exists_course ctx (isRequest_of_asked? hasked) w with
  | unasked hnone =>
    rw [hasked] at hnone
    cases hnone
  | refused _ _ hfailed | unpublished _ _ hfailed =>
    rw [hdone] at hfailed
    cases hfailed
  | done timestamp hasked' hplan _ hstore hpublications =>
    obtain rfl := Option.some.inj (hasked.symm.trans hasked')
    exact ⟨_, timestamp, hplan, hstore, hpublications⟩

/-- A request that is refused publishes nothing and leaves the store. -/
theorem still_of_refused {m : Mutation} {conflict : Conflict}
    (hasked : asked? ctx message w = some m)
    (hplan : m.plan ctx.watched w.store = .error conflict) :
    (take ctx message w).1.isDone = false ∧ w.Still (take ctx message w).2 := by
  cases exists_course ctx (isRequest_of_asked? hasked) w with
  | unasked hnone =>
    rw [hasked] at hnone
    cases hnone
  | refused _ _ hdone hstill => exact ⟨hdone, hstill⟩
  | unpublished hasked' hplan' | done _ hasked' hplan' =>
    obtain rfl := Option.some.inj (hasked.symm.trans hasked')
    rw [hplan] at hplan'
    cases hplan'

/-- A request whose mutation has a plan publishes it.  The store gains the record, or stays as it is
if the homeserver does not take the publication. -/
theorem sent_of_planned {m : Mutation} {p : Publication}
    (hasked : asked? ctx message w = some m) (hplan : m.plan ctx.watched w.store = .ok p) :
    (take ctx message w).2.publications = w.publications ++ [m.effect p] ∧
      ((take ctx message w).2.store = w.store ∨ ∃ timestamp, (take ctx message w).2.store =
        m.recordIn p ctx.settings.botUser timestamp w.store) := by
  cases exists_course ctx (isRequest_of_asked? hasked) w with
  | unasked hnone =>
    rw [hasked] at hnone
    cases hnone
  | refused hasked' hconflict =>
    obtain rfl := Option.some.inj (hasked.symm.trans hasked')
    rw [hplan] at hconflict
    cases hconflict
  | unpublished hasked' hplan' _ hstore hsent =>
    obtain rfl := Option.some.inj (hasked.symm.trans hasked')
    obtain rfl := Except.ok.inj (hplan.symm.trans hplan')
    exact ⟨hsent, .inl hstore⟩
  | done timestamp hasked' hplan' _ hstore hsent =>
    obtain rfl := Option.some.inj (hasked.symm.trans hasked')
    obtain rfl := Except.ok.inj (hplan.symm.trans hplan')
    exact ⟨hsent, .inr ⟨timestamp, hstore⟩⟩

/-- Where nothing was done the store is as it was. -/
theorem store_of_nothing (hreq : message.isRequest = true)
    (hnothing : asked? ctx message w = none ∨ (take ctx message w).1.isDone = false) :
    (take ctx message w).2.store = w.store := by
  cases exists_course ctx hreq w with
  | unasked _ hstill | refused _ _ _ hstill => exact hstill.store
  | unpublished _ _ _ hstore => exact hstore
  | done _ hasked _ hdone => simp [hasked, hdone] at hnothing

end Session
end Moderation

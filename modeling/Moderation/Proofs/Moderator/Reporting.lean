import Moderation.Proofs.Moderator.Carrying
import Moderation.Proofs.Policy.Summary
/-!
# What becomes of a report

The cases of a report, one constructor each: how its target is found (`Reports.Located`), what
becomes of a command that an administrator gives in it (`Reports.Escalated`), and what becomes of
the report as a whole (`Reports.Handled`).  Each case says what the result is and what the world is
afterwards, so that it can be seen what was asked of the homeserver and whether the store or the
audit log has changed.

The cases are right (`Reports.Handled.handle_eq`) and there are no others
(`Reports.exists_handled`), so handling a report comes out as exactly one of them
(`Reports.handle_eq_iff`).
-/

namespace Moderation

/-- A text that starts with a character that is not blank has a first word. -/
theorem Text.exists_words_eq_cons {s : String} {c : Char} (h : s.toList.head? = some c)
    (hc : isBlank c = false) :
    ∃ word rest, words s = word :: rest := by
  obtain ⟨cs, hcs⟩ : ∃ cs, s.toList = c :: cs := by
    cases hl : s.toList with
    | nil => rw [hl] at h; cases h
    | cons d cs =>
      rw [hl] at h
      obtain rfl := Option.some.inj h
      exact ⟨cs, rfl⟩
  unfold words wordsOf
  rw [hcs, List.foldr_cons, scanWord, hc, if_neg Bool.false_ne_true]
  exact ⟨_, _, rfl⟩

/-- The verb of the first word of a report: its slashes stripped, in lower case. -/
def ReportCommand.verb (word : String) : String :=
  Text.lower (String.ofList (word.toList.dropWhile (· = '/')))

namespace Reports

variable {σ : Type} {ctx : Context σ} {report : Report} {w w' : World σ}

/-- What is said when a report names a list that is not known. -/
def unlistedText (reporter entity shortcode : String) : String :=
  s!"Failed to handle {linked reporter}'s report of {linked entity}: " ++
    s!"list \"{shortcode}\" not found"

/-- What is said when a report was acted upon. -/
def processedText (reporter entity reason : String) (list : WatchedList) : String :=
  s!"Processed {linked reporter}'s report of {linked entity} and sent a ban policy " ++
    s!"to {linkedList list} for {reason}"

/-- What is said when the rule of a report could not be published. -/
def unpublishedText (reporter entity : String) (list : WatchedList) (e : HomeserverError) :
    String :=
  s!"Failed to handle {linked reporter}'s report of {linked entity} " ++
    s!"for {linkedList list}: {e.message}"

/-- The rule that decides about the user of a report, if any does. -/
def deciding (ctx : Context σ) (entity : String) (store : Store) : Option PolicyRecord :=
  (PolicySummary.ofRecords (store.find (query ctx entity))).deciding

/-- What a report that asks for a ban publishes: a ban that names the user, under the key of the
rule in that list about the user if there is one. -/
def publication (ctx : Context σ) (list : WatchedList) (entity reason : String) (store : Store) :
    Publication :=
  .rule entity .ban reason false
    (Decision.existingKey (store.find (query ctx entity)) list.roomId entity)

/-- How the target of a report is found: the sender of its event, the target, and the world
afterwards. -/
inductive Located (ctx : Context σ) (report : Report) (w : World σ) :
    Option String → Option String → World σ → Prop
  /-- The report is not about an event, and its target is the user it names, if any. -/
  | named (h : report.roomId = none ∨ report.eventId = none) :
    Located ctx report w none (report.targetUser.filter fun user => !user.isEmpty) w
  /-- The target is who sent the event, whomever the report names. -/
  | sent {room event sender : String} (hroom : report.roomId = some room)
      (hevent : report.eventId = some event)
      (hs : (ctx.homeserver.eventSender room event w.server).1 = .ok sender) :
    Located ctx report w (some sender) (some sender)
      (w.asked (.eventSender room event) (ctx.homeserver.eventSender room event w.server).2)

/-- What becomes of a command that an administrator gives in a report, by its first word and the
others. -/
inductive Escalated (ctx : Context σ) (reporter entity word : String) (args : List String)
    (w : World σ) : Except ReportError ReportOutcome → World σ → Prop
  | ignored (hv : ReportCommand.verb word ≠ "ban") :
    Escalated ctx reporter entity word args w (.ok .ignored) w
  | incomplete (hv : ReportCommand.verb word = "ban") (hargs : args.length < 2) :
    Escalated ctx reporter entity word args w
      (.error (.invalidParam "Not enough arguments for ban")) w
  /-- A standing unban blocks the ban, whether or not the list is known. -/
  | unbanned {r : PolicyRecord} (hv : ReportCommand.verb word = "ban") (hargs : 2 ≤ args.length)
      (hd : deciding ctx entity w.store = some r) (hr : r.recommendation = some .unban) :
    Escalated ctx reporter entity word args w
      (.error (.conflict (.unbanRecommended entity r.content.reason))) w
  /-- So does a standing ban or takedown. -/
  | banned {r : PolicyRecord} (hv : ReportCommand.verb word = "ban") (hargs : 2 ≤ args.length)
      (hd : deciding ctx entity w.store = some r) (hr : PolicySummary.recommendsBan r = true) :
    Escalated ctx reporter entity word args w
      (.error (.conflict (.alreadyBanned entity r.content.reason))) w
  | unlisted {shortcode first : String} {rest : List String} (hv : ReportCommand.verb word = "ban")
      (hargs : args = shortcode :: first :: rest) (hd : deciding ctx entity w.store = none)
      (hl : ctx.listNamed shortcode = none) :
    Escalated ctx reporter entity word args w
      (.error (.notFound s!"List with shortcode \"{shortcode}\" not found"))
      (w.shown ctx (unlistedText reporter entity shortcode))
  | published {shortcode first eventId : String} {rest : List String} {list : WatchedList}
      (hv : ReportCommand.verb word = "ban") (hargs : args = shortcode :: first :: rest)
      (hd : deciding ctx entity w.store = none) (hl : ctx.listNamed shortcode = some list)
      {reason : String} (hreason : reason = Text.unwords (first :: rest)) {p : Publication}
      (hp : p = publication ctx list entity reason w.store)
      (ha : (banMutation list entity reason).answer ctx p w = .ok eventId) :
    Escalated ctx reporter entity word args w
      (.ok (.policy
        { listRoom := list.roomId, listShortcode := list.shortcode, kind := .user, entity,
          recommendation := .ban, reason, stateKey := p.stateKey, eventId }))
      ((w.published ctx (banMutation list entity reason) p reporter).shown ctx
        (processedText reporter entity reason list))
  | unpublished {shortcode first : String} {rest : List String} {list : WatchedList}
      {e : HomeserverError} (hv : ReportCommand.verb word = "ban")
      (hargs : args = shortcode :: first :: rest)
      (hd : deciding ctx entity w.store = none) (hl : ctx.listNamed shortcode = some list)
      {reason : String} (hreason : reason = Text.unwords (first :: rest)) {p : Publication}
      (hp : p = publication ctx list entity reason w.store)
      (ha : (banMutation list entity reason).answer ctx p w = .error e) :
    Escalated ctx reporter entity word args w (.error (.unpublished e))
      ((w.published ctx (banMutation list entity reason) p reporter).shown ctx
        (unpublishedText reporter entity list e))

/-- What becomes of a report. -/
inductive Handled (ctx : Context σ) (report : Report) (w : World σ) :
    Except ReportError ReportOutcome → World σ → Prop
  /-- The event of the report cannot be fetched. -/
  | unfetched {room event : String} {e : HomeserverError} (hroom : report.roomId = some room)
      (hevent : report.eventId = some event)
      (he : (ctx.homeserver.eventSender room event w.server).1 = .error e) :
    Handled ctx report w (.error (.eventFetch e))
      ((w.asked (.eventSender room event)
        (ctx.homeserver.eventSender room event w.server).2).shown ctx
        (fetchFailureText report room event e))
  /-- The report is shown to the moderators. -/
  | shown {sender target : Option String} {w₁ : World σ}
      (hl : Located ctx report w sender target w₁)
      (h : ctx.isAdmin report.reporter = false ∨ ReportCommand.isCommand report.reason = false ∨
        target = none) :
    Handled ctx report w (.ok .notice) (w₁.shown ctx (noticeText report sender))
  /-- The report is acted upon. -/
  | escalated {sender : Option String} {entity word : String} {args : List String} {w₁ w₂ : World σ}
      {result : Except ReportError ReportOutcome}
      (hl : Located ctx report w sender (some entity) w₁)
      (hadmin : ctx.isAdmin report.reporter = true)
      (hcommand : ReportCommand.isCommand report.reason = true)
      (hwords : Text.words report.reason = word :: args)
      (he : Escalated ctx report.reporter entity word args w₁ result w₂) :
    Handled ctx report w result w₂

/-! ## The cases are right -/

theorem Located.fetchSender_eq {sender target : Option String} {w₁ : World σ}
    (h : Located ctx report w sender target w₁) :
    fetchSender ctx report w = (.ok sender, w₁) ∧ Reports.target report sender = target := by
  unfold fetchSender
  cases h with
  | named h =>
    refine ⟨?_, rfl⟩
    rcases h with h | h
    · simp only [h]
      rfl
    · cases hroom : report.roomId <;> simp only [h] <;> rfl
  | sent hroom hevent hs =>
    refine ⟨?_, rfl⟩
    simp only [hroom, hevent, Act.bind_apply, Act.perform_apply, hs]
    rfl

theorem fetchSender_of_error {room event : String} {e : HomeserverError}
    (hroom : report.roomId = some room)
    (hevent : report.eventId = some event)
    (he : (ctx.homeserver.eventSender room event w.server).1 = .error e) :
    fetchSender ctx report w = (.error (.eventFetch e),
      (w.asked (.eventSender room event)
        (ctx.homeserver.eventSender room event w.server).2).shown ctx
        (fetchFailureText report room event e)) := by
  unfold fetchSender
  simp only [hroom, hevent, Act.bind_apply, Act.perform_apply, he]
  rfl

theorem ofWords_cons (word : String) (args : List String) :
    ReportCommand.ofWords (word :: args) =
      if ReportCommand.verb word = "ban" then
        match args with
        | list :: first :: rest => .ok (some (.ban list (Text.unwords (first :: rest))))
        | _ => .error .notEnoughArguments
      else .ok (some (.unknown (ReportCommand.verb word))) := rfl

theorem parse_of_words {reason word : String} {args : List String}
    (hcommand : ReportCommand.isCommand reason = true)
    (hwords : Text.words reason = word :: args) :
    ReportCommand.parse reason = ReportCommand.ofWords (word :: args) := by
  rw [ReportCommand.parse, if_pos hcommand, hwords]

/-- What the standing rules say of a report that asks for a ban. -/
theorem reportConflict_of_deciding {entity : String} {store : Store} {r : PolicyRecord}
    (hd : deciding ctx entity store = some r) :
    Decision.reportConflict (store.find (query ctx entity)) entity =
      if r.recommendation = some .unban then .error (.unbanRecommended entity r.content.reason)
      else .error (.alreadyBanned entity r.content.reason) := by
  unfold deciding at hd
  unfold Decision.reportConflict
  simp only [hd, PolicySummary.isUnban, PolicySummary.recommendation, Option.bind_some,
    decide_eq_true_eq]

theorem reportConflict_of_none {entity : String} {store : Store}
    (hd : deciding ctx entity store = none) :
    Decision.reportConflict (store.find (query ctx entity)) entity = .ok () := by
  unfold deciding at hd
  unfold Decision.reportConflict
  simp only [hd]

/-- Where nothing is decided about its user a report that asks for a ban plans a publication. -/
theorem plan_of_none {entity reason : String} {list : WatchedList} {store : Store}
    (hd : deciding ctx entity store = none) :
    (banMutation list entity reason).plan ctx.watched store =
      .ok (publication ctx list entity reason store) := by
  have hreport : Decision.reportBan (store.find (query ctx entity)) list.roomId entity =
      .ok (Decision.existingKey (store.find (query ctx entity)) list.roomId entity) := by
    rw [Decision.reportBan, reportConflict_of_none hd]
  unfold Mutation.plan Mutation.decide
  simp only [banMutation, Mutation.query]
  rw [← query, hreport]
  rfl

theorem ban_of_deciding {entity : String} {r : PolicyRecord}
    (hd : deciding ctx entity w.store = some r)
    (reporter shortcode reason : String) :
    ban ctx reporter entity shortcode reason w =
      (if r.recommendation = some .unban then
        .error (.conflict (.unbanRecommended entity r.content.reason))
        else .error (.conflict (.alreadyBanned entity r.content.reason)), w) := by
  unfold ban
  rw [Act.bind_apply, Act.get_apply, reportConflict_of_deciding hd]
  by_cases hr : r.recommendation = some .unban
  · rw [if_pos hr, if_pos hr]
    rfl
  · rw [if_neg hr, if_neg hr]
    rfl

theorem ban_of_none {entity : String} (hd : deciding ctx entity w.store = none)
    (reporter shortcode reason : String) :
    ban ctx reporter entity shortcode reason w =
      match ctx.listNamed shortcode with
      | some list => banIn ctx reporter entity reason list w
      | none =>
        (.error (.notFound s!"List with shortcode \"{shortcode}\" not found"),
          w.shown ctx (unlistedText reporter entity shortcode)) := by
  unfold ban
  rw [Act.bind_apply, Act.get_apply, reportConflict_of_none hd]
  cases ctx.listNamed shortcode <;> rfl

theorem banIn_of_none {entity reason : String} {list : WatchedList} {p : Publication}
    (hd : deciding ctx entity w.store = none) (hp : p = publication ctx list entity reason w.store)
    (reporter : String) :
    banIn ctx reporter entity reason list w =
      match (banMutation list entity reason).answer ctx p w with
      | .ok eventId =>
        (.ok (.policy
          { listRoom := list.roomId, listShortcode := list.shortcode, kind := .user, entity,
            recommendation := .ban, reason, stateKey := p.stateKey, eventId }),
          (w.published ctx (banMutation list entity reason) p reporter).shown ctx
            (processedText reporter entity reason list))
      | .error e =>
        (.error (.unpublished e),
          (w.published ctx (banMutation list entity reason) p reporter).shown ctx
            (unpublishedText reporter entity list e)) := by
  subst hp
  unfold banIn
  rw [Act.bind_apply, Mutation.run_planned (plan_of_none hd)]
  cases (banMutation list entity reason).answer ctx
    (publication ctx list entity reason w.store) w <;> rfl

theorem escalate_of_ban {reason word shortcode first : String} {rest : List String}
    (hcommand : ReportCommand.isCommand reason = true)
    (hwords : Text.words reason = word :: shortcode :: first :: rest)
    (hv : ReportCommand.verb word = "ban") (reporter entity : String) :
    escalate ctx reporter entity reason =
      ban ctx reporter entity shortcode (Text.unwords (first :: rest)) := by
  unfold escalate
  rw [parse_of_words hcommand hwords, ofWords_cons, if_pos hv]

theorem exists_of_two_le {args : List String} (h : 2 ≤ args.length) :
    ∃ shortcode first rest, args = shortcode :: first :: rest := by
  match args with
  | shortcode :: first :: rest => exact ⟨shortcode, first, rest, rfl⟩

theorem Escalated.escalate_eq {reporter entity reason word : String} {args : List String}
    {result : Except ReportError ReportOutcome}
    (h : Escalated ctx reporter entity word args w result w')
    (hcommand : ReportCommand.isCommand reason = true) (hwords : Text.words reason = word :: args) :
    escalate ctx reporter entity reason w = (result, w') := by
  cases h with
  | ignored hv =>
    unfold escalate
    rw [parse_of_words hcommand hwords, ofWords_cons, if_neg hv]
    rfl
  | incomplete hv hargs =>
    unfold escalate
    rw [parse_of_words hcommand hwords, ofWords_cons, if_pos hv]
    match args, hargs with
    | [], _ => rfl
    | [_], _ => rfl
  | unbanned hv hargs hd hr =>
    obtain ⟨shortcode, first, rest, rfl⟩ := exists_of_two_le hargs
    rw [escalate_of_ban hcommand hwords hv, ban_of_deciding hd, if_pos hr]
  | @banned r hv hargs hd hr =>
    obtain ⟨shortcode, first, rest, rfl⟩ := exists_of_two_le hargs
    -- A rule that bans does not unban, so the second answer is given.
    have hne : r.recommendation ≠ some .unban := by
      intro heq
      rw [PolicySummary.recommendsBan, heq] at hr
      cases hr
    rw [escalate_of_ban hcommand hwords hv, ban_of_deciding hd, if_neg hne]
  | unlisted hv hargs hd hl =>
    subst hargs
    rw [escalate_of_ban hcommand hwords hv, ban_of_none hd, hl]
  | published hv hargs hd hl hreason hp ha =>
    subst hargs hreason
    rw [escalate_of_ban hcommand hwords hv, ban_of_none hd, hl]
    dsimp only
    rw [banIn_of_none hd hp, ha]
  | unpublished hv hargs hd hl hreason hp ha =>
    subst hargs hreason
    rw [escalate_of_ban hcommand hwords hv, ban_of_none hd, hl]
    dsimp only
    rw [banIn_of_none hd hp, ha]

/-- **Each case says what handling the report comes to.** -/
theorem Handled.handle_eq {result : Except ReportError ReportOutcome}
    (h : Handled ctx report w result w') :
    handle ctx report w = (result, w') := by
  unfold handle
  cases h with
  | unfetched hroom hevent he =>
    rw [Act.bind_apply, fetchSender_of_error hroom hevent he]
    rfl
  | shown hl h =>
    obtain ⟨hfetch, htarget⟩ := hl.fetchSender_eq
    rw [Act.bind_apply, hfetch]
    simp only [htarget]
    split
    · next entity _ =>
      have hnot :
          ¬(ctx.isAdmin report.reporter && ReportCommand.isCommand report.reason) = true := by
        rcases h with h | h | h
        · simp [h]
        · simp [h]
        · cases h
      rw [if_neg hnot]
      rfl
    · rfl
  | escalated hl hadmin hcommand hwords he =>
    obtain ⟨hfetch, htarget⟩ := hl.fetchSender_eq
    rw [Act.bind_apply, hfetch]
    simp only [htarget, hadmin, hcommand, Bool.and_self, if_true]
    exact he.escalate_eq hcommand hwords

/-! ## There are no others -/

/-- The sender of the event cannot be fetched, or the target is found. -/
theorem exists_located (ctx : Context σ) (report : Report) (w : World σ) :
    (∃ room event e, report.roomId = some room ∧ report.eventId = some event ∧
      (ctx.homeserver.eventSender room event w.server).1 = .error e) ∨
      ∃ sender target w₁, Located ctx report w sender target w₁ := by
  cases hroom : report.roomId with
  | none => exact .inr ⟨_, _, _, .named (.inl hroom)⟩
  | some room =>
    cases hevent : report.eventId with
    | none => exact .inr ⟨_, _, _, .named (.inr hevent)⟩
    | some event =>
      cases hs : (ctx.homeserver.eventSender room event w.server).1 with
      | error e => exact .inl ⟨room, event, e, rfl, rfl, hs⟩
      | ok sender => exact .inr ⟨_, _, _, .sent hroom hevent hs⟩

theorem exists_escalated (ctx : Context σ) (reporter entity word : String) (args : List String)
    (w : World σ) :
    ∃ result w', Escalated ctx reporter entity word args w result w' := by
  by_cases hv : ReportCommand.verb word = "ban"
  · by_cases hargs : args.length < 2
    · exact ⟨_, _, .incomplete hv hargs⟩
    · have htwo : 2 ≤ args.length := Nat.le_of_not_lt hargs
      cases hd : deciding ctx entity w.store with
      | some r =>
        rcases PolicySummary.recommends_of_deciding hd with hr | hr
        · exact ⟨_, _, .unbanned hv htwo hd hr⟩
        · exact ⟨_, _, .banned hv htwo hd hr⟩
      | none =>
        obtain ⟨shortcode, first, rest, hcons⟩ := exists_of_two_le htwo
        cases hl : ctx.listNamed shortcode with
        | none => exact ⟨_, _, .unlisted hv hcons hd hl⟩
        | some list =>
          cases ha : (banMutation list entity (Text.unwords (first :: rest))).answer ctx
              (publication ctx list entity (Text.unwords (first :: rest)) w.store) w with
          | ok eventId => exact ⟨_, _, .published hv hcons hd hl rfl rfl ha⟩
          | error e => exact ⟨_, _, .unpublished hv hcons hd hl rfl rfl ha⟩
  · exact ⟨_, _, .ignored hv⟩

/-- **One of the cases holds** of every report, whatever the world is like. -/
theorem exists_handled (ctx : Context σ) (report : Report) (w : World σ) :
    ∃ result w', Handled ctx report w result w' := by
  rcases exists_located ctx report w with
    ⟨room, event, e, hroom, hevent, he⟩ | ⟨sender, target, w₁, hl⟩
  · exact ⟨_, _, .unfetched hroom hevent he⟩
  · by_cases hadmin : ctx.isAdmin report.reporter = true
    · by_cases hcommand : ReportCommand.isCommand report.reason = true
      · cases target with
        | none => exact ⟨_, _, .shown hl (.inr (.inr rfl))⟩
        | some entity =>
          -- A command starts with a slash, so there is a first word to look at.
          have hslash : report.reason.toList.head? = some '/' := by
            simpa [ReportCommand.isCommand] using hcommand
          obtain ⟨word, args, hwords⟩ := Text.exists_words_eq_cons hslash (by decide)
          obtain ⟨result, w₂, he⟩ := exists_escalated ctx report.reporter entity word args w₁
          exact ⟨result, w₂, .escalated hl hadmin hcommand hwords he⟩
      · exact ⟨_, _, .shown hl (.inr (.inl (by simpa using hcommand)))⟩
    · exact ⟨_, _, .shown hl (.inl (by simpa using hadmin))⟩

/-- **Handling a report comes out as exactly one of the cases.** -/
theorem handle_eq_iff (ctx : Context σ) (report : Report) (w w' : World σ)
    (result : Except ReportError ReportOutcome) :
    handle ctx report w = (result, w') ↔ Handled ctx report w result w' := by
  constructor
  · intro h
    obtain ⟨result', w'', hcase⟩ := exists_handled ctx report w
    have heq := hcase.handle_eq.symm.trans h
    obtain ⟨rfl, rfl⟩ := Prod.mk.inj heq
    exact hcase
  · exact Handled.handle_eq

end Reports
end Moderation

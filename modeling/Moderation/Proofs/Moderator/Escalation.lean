import Moderation.Proofs.Moderator.StandingUnban
import Moderation.Proofs.Text.Words
/-!
# A report does what a command would have done

A report in which an administrator asks for a ban looks for rules that match the user by pattern,
and a command to ban the user for those that match exactly.  What matches exactly matches by
pattern, so a report is refused where the command is (`Reports.deciding_of_standingUnban`).  And a
rule that is on the user is found by either, so both take over the same key
(`Decision.existingKey_mode`), and plan the same publication if the report goes ahead
(`Reports.command_plan_eq`).

So a report that is acted upon does what the command would have done in the same world, and what is
forbidden to the command for the sake of an unban is forbidden to the report
(`Reports.handle_refines_execute`).
-/

namespace Moderation

variable {σ : Type} {ctx : Context σ}

/-! ## What exact queries and pattern queries find -/

/-- All queries for a kind are answered from the same records. -/
theorem Store.exists_find_eq (store : Store) (kind : EntityKind) :
    ∃ records : List PolicyRecord, ∀ q : PolicyQuery, q.kind = kind →
      store.find q = records.filter q.accepts := by
  cases store with
  | memory s => exact ⟨s.records, fun _ _ => rfl⟩
  | database d =>
    refine ⟨d.recordsOf kind, ?_⟩
    rintro q rfl
    rfl

/-- What is on an entity is about it exactly if it is about it by pattern. -/
theorem PolicyContent.concerns_mode {c : PolicyContent} {entity : String}
    (h : c.targets entity = true) (mode mode' : MatchMode) :
    c.concerns mode entity = c.concerns mode' entity := by
  unfold concerns
  rcases Bool.or_eq_true_iff.1 h with hnamed | hhidden
  · simp [of_decide_eq_true hnamed]
  · simp [(Bool.and_eq_true_iff.1 hhidden).1]

theorem PolicyContent.concerns_pattern {c : PolicyContent} {entity : String}
    (h : c.concerns .exact entity = true) : c.concerns .pattern entity = true := by
  rw [← concerns_mode (targets_of_concerns h) .exact]
  exact h

/-- Whatever answers an exact query answers the query by pattern. -/
theorem PolicyQuery.accepts_pattern {q : PolicyQuery} {r : PolicyRecord}
    (h : { q with mode := .exact }.accepts r = true) :
    { q with mode := .pattern }.accepts r = true := by
  simp only [accepts, Bool.and_eq_true] at h ⊢
  exact ⟨h.1, PolicyContent.concerns_pattern h.2⟩

namespace Decision

/-- **The key that is taken over does not depend on how rules are matched.** -/
theorem existingKey_mode (records : List PolicyRecord) (q : PolicyQuery) (listRoom : String)
    (mode mode' : MatchMode) :
    existingKey (records.filter { q with mode }.accepts) listRoom q.value =
      existingKey (records.filter { q with mode := mode' }.accepts) listRoom q.value := by
  have hsame (r : PolicyRecord) :
      (decide (r.listRoom = listRoom) && r.content.targets q.value &&
          { q with mode }.accepts r) =
        (decide (r.listRoom = listRoom) && r.content.targets q.value &&
          { q with mode := mode' }.accepts r) := by
    cases htargets : r.content.targets q.value with
    | false => simp
    | true =>
      simp only [PolicyQuery.accepts, PolicyContent.concerns_mode htargets mode mode']
  simp only [existingKey, List.filter_filter, hsame]

/-- The rule of a standing unban is one of those that were found. -/
theorem mem_of_standingUnban {found : List PolicyRecord} {r : PolicyRecord}
    (h : standingUnban found = some r) : r ∈ found ∧ r.recommendation = some .unban := by
  unfold standingUnban at h
  dsimp only at h
  split at h
  · next hunban =>
    exact ⟨PolicySummary.mem_of_deciding h,
      by simpa [PolicySummary.isUnban, PolicySummary.recommendation, h] using hunban⟩
  · cases h

end Decision

namespace Commands

theorem mutation_ne_conflict (shortcode entity : String) (change : Change) (conflict : Conflict) :
    mutation ctx shortcode entity change ≠ .error (.conflict conflict) := by
  unfold mutation listNamed classify
  cases ctx.listNamed shortcode with
  | none => simp [bind, Except.bind]
  | some list => cases Entity.classify entity <;> simp [bind, Except.bind, pure, Except.pure]

/-- A command that fails with a conflict names a mutation that is refused for it. -/
theorem exists_refused {c : Command} {shortcode entity actor : String} {change : Change}
    {conflict : Conflict} {w : World σ} (hchange : c.change? = some (shortcode, entity, change))
    (h : (execute ctx actor c w).1 = .error (.conflict conflict)) :
    ∃ m, mutation ctx shortcode entity change = .ok m ∧
      m.plan ctx.watched w.store = .error conflict := by
  rw [execute_of_change hchange] at h
  cases hm : mutation ctx shortcode entity change with
  | error e =>
    have hfailed : (mutate ctx shortcode entity change actor w).1 = .error e := by
      unfold mutate
      simp only [hm]
      rfl
    rw [hfailed] at h
    exact absurd (hm.trans (congrArg Except.error (Except.error.inj h)))
      (mutation_ne_conflict shortcode entity change conflict)
  | ok m =>
    refine ⟨m, rfl, ?_⟩
    rw [mutate_eq hm] at h
    cases hplan : m.plan ctx.watched w.store with
    | error refusal =>
      rw [Mutation.run_refused hplan] at h
      cases refusal <;> cases h <;> rfl
    | ok p =>
      rw [Mutation.run_planned hplan] at h
      cases ha : m.answer ctx p w <;> rw [ha] at h <;> cases h

end Commands

namespace Reports

variable {entity : String} {store : Store}

/-- What a command to ban a user asks of the store. -/
def commandQuery (ctx : Context σ) (entity : String) : PolicyQuery :=
  { mode := .exact, lists := some ctx.watched, kind := .user, value := entity }

/-- The mutation of a command to ban a user. -/
def commandMutation (list : WatchedList) (entity reason : String) : Mutation :=
  { list, kind := .user, entity, change := .ban .ban reason false }

/-- **A report finds an unban where a command does.** -/
theorem deciding_of_standingUnban {r : PolicyRecord}
    (h : Decision.standingUnban (store.find (commandQuery ctx entity)) = some r) :
    ∃ d, deciding ctx entity store = some d ∧ d.recommendation = some .unban := by
  obtain ⟨hmem, hunban⟩ := Decision.mem_of_standingUnban h
  obtain ⟨records, hfind⟩ := store.exists_find_eq .user
  rw [hfind _ rfl] at hmem
  obtain ⟨hr, haccepts⟩ := List.mem_filter.1 hmem
  refine exists_deciding_unban (u := r) ?_ hunban
  rw [hfind _ rfl]
  exact List.mem_filter.2 ⟨hr, PolicyQuery.accepts_pattern (q := query ctx entity) haccepts⟩

/-- **Where a report goes ahead a command plans the same publication.** -/
theorem command_plan_eq (hd : deciding ctx entity store = none) (list : WatchedList)
    (reason : String) :
    (commandMutation list entity reason).plan ctx.watched store =
      .ok (publication ctx list entity reason store) := by
  have hnone : Decision.standingUnban (store.find (commandQuery ctx entity)) = none := by
    cases hstanding : Decision.standingUnban (store.find (commandQuery ctx entity)) with
    | none => rfl
    | some r =>
      obtain ⟨d, hsome, -⟩ := deciding_of_standingUnban hstanding
      rw [hd] at hsome
      cases hsome
  have hkey : Decision.existingKey (store.find (commandQuery ctx entity)) list.roomId entity =
      Decision.existingKey (store.find (query ctx entity)) list.roomId entity := by
    obtain ⟨records, hfind⟩ := store.exists_find_eq .user
    rw [hfind _ rfl, hfind _ rfl]
    exact Decision.existingKey_mode records (query ctx entity) list.roomId .exact .pattern
  have hban : Decision.ban (store.find (commandQuery ctx entity)) list.roomId entity =
      .ok (Decision.existingKey (store.find (query ctx entity)) list.roomId entity) := by
    simp only [Decision.ban, hnone, hkey]
  unfold Mutation.plan Mutation.decide
  simp only [commandMutation, Mutation.query]
  rw [← commandQuery, hban]
  rfl

/-- **Where a report goes ahead and is answered, a command completes**, with the same
publication. -/
theorem execute_published {shortcode reason eventId : String} {list : WatchedList} {w : World σ}
    (huser : Entity.classify entity = some .user) (hlist : ctx.listNamed shortcode = some list)
    (hd : deciding ctx entity w.store = none)
    (ha : (commandMutation list entity reason).answer ctx
      (publication ctx list entity reason w.store) w = .ok eventId) (actor : String) :
    Commands.execute ctx actor (.ban false false shortcode entity reason) w =
      (.ok .reaction, w.published ctx (commandMutation list entity reason)
        (publication ctx list entity reason w.store) actor) := by
  have hm : Commands.mutation ctx shortcode entity (.ban .ban reason false) =
      .ok (commandMutation list entity reason) :=
    Commands.mutation_eq_ok.2 ⟨list, .user, hlist, huser, rfl⟩
  have hmutate := Commands.mutate_eq (w := w) hm actor
  rw [Mutation.run_planned (command_plan_eq hd list reason), ha] at hmutate
  exact hmutate

/-- A command to ban a user is refused for the sake of an unban only if it finds one. -/
theorem exists_standingUnban {shortcode reason actor other why : String} {w : World σ}
    (huser : Entity.classify entity = some .user)
    (h : (Commands.execute ctx actor (.ban false false shortcode entity reason) w).1 =
      .error (.conflict (.unbanRecommended other why))) :
    ∃ r, Decision.standingUnban (w.store.find (commandQuery ctx entity)) = some r := by
  obtain ⟨m, hm, hrefused⟩ := Commands.exists_refused rfl h
  obtain ⟨list, kind, -, hkind, rfl⟩ := Commands.mutation_eq_ok.1 hm
  obtain rfl : kind = .user := Option.some.inj (hkind.symm.trans huser)
  cases hstanding : Decision.standingUnban (w.store.find (commandQuery ctx entity)) with
  | some r => exact ⟨r, rfl⟩
  | none =>
    have hban : Decision.ban (w.store.find (commandQuery ctx entity)) list.roomId entity =
        .ok (Decision.existingKey (w.store.find (commandQuery ctx entity)) list.roomId entity) := by
      simp only [Decision.ban, hstanding]
    unfold Mutation.plan Mutation.decide Mutation.query at hrefused
    simp only [Bool.false_eq_true, if_false] at hrefused
    rw [← commandQuery, hban] at hrefused
    cases hrefused

/-! ## The report and the command -/

/-- A report of an administrator, not about an event, that asks for a ban of a user. -/
structure AsksBan (ctx : Context σ) (report : Report) (shortcode entity : String)
    (words : List String) : Prop where
  admin : ctx.isAdmin report.reporter = true
  target : report.targetUser = some entity
  noEvent : report.eventId = none
  /-- The target is a user by its spelling. -/
  user : entity.toList.head? = some '@'
  shortcode_word : Text.IsWord shortcode
  words_ne_nil : words ≠ []
  words_word : ∀ word ∈ words, Text.IsWord word
  reason : report.reason = "/ban " ++ shortcode ++ " " ++ Text.unwords words

namespace AsksBan

variable {report : Report} {shortcode : String} {words : List String}
  (h : AsksBan ctx report shortcode entity words)
include h

theorem classify_eq : Entity.classify entity = some .user := by
  obtain ⟨rest, hentity⟩ := List.head?_eq_some_iff.1 h.user
  simp only [Entity.classify, hentity]

theorem words_reason : Text.words report.reason = "/ban" :: shortcode :: words := by
  have hverb : ("/ban " : String) = "/ban" ++ " " := by decide
  have hjoined : report.reason = Text.unwords ("/ban" :: shortcode :: words) := by
    rw [h.reason, hverb, Text.unwords_cons _ (List.cons_ne_nil _ _),
      Text.unwords_cons _ h.words_ne_nil]
    simp only [String.append_assoc]
  rw [hjoined]
  refine Text.words_unwords ?_
  intro word hword
  rcases List.mem_cons.1 hword with rfl | hword
  · decide
  · rcases List.mem_cons.1 hword with rfl | hword
    · exact h.shortcode_word
    · exact h.words_word word hword

/-- The report is handled as a ban of the user. -/
theorem handle_eq (w : World σ) :
    handle ctx report w = ban ctx report.reporter entity shortcode (Text.unwords words) w := by
  have hlocated :
      Located ctx report w none (report.targetUser.filter fun user => !user.isEmpty) w :=
    .named (.inr h.noEvent)
  obtain ⟨hfetch, htarget⟩ := hlocated.fetchSender_eq
  have hsome : Reports.target report none = some entity := by
    have hne := Entity.ne_empty_of_classify h.classify_eq
    simp [htarget, h.target, Option.filter, hne]
  have hcommand : ReportCommand.isCommand report.reason = true := by
    simp [ReportCommand.isCommand, h.reason]
  obtain ⟨first, rest, rfl⟩ := List.exists_cons_of_ne_nil h.words_ne_nil
  unfold handle
  rw [Act.bind_apply, hfetch]
  simp only [hsome, h.admin, hcommand, Bool.and_self, if_true]
  rw [escalate_of_ban hcommand h.words_reason (by decide)]

/-- **A report that is acted upon** is one whose ban goes ahead and is published. -/
theorem exists_published {w : World σ} {action : PolicyAction}
    (hpolicy : (handle ctx report w).1 = .ok (.policy action)) :
    ∃ list eventId, deciding ctx entity w.store = none ∧ ctx.listNamed shortcode = some list ∧
      let m := banMutation list entity (Text.unwords words)
      let p := publication ctx list entity (Text.unwords words) w.store
      m.answer ctx p w = .ok eventId ∧
        Effect.publish action.listRoom action.kind action.stateKey p.content = m.effect p ∧
        (handle ctx report w).2 = (w.published ctx m p report.reporter).shown ctx
          (processedText report.reporter entity (Text.unwords words) list) := by
  rw [h.handle_eq] at hpolicy ⊢
  cases hd : deciding ctx entity w.store with
  | some r =>
    rw [ban_of_deciding hd] at hpolicy
    by_cases hr : r.recommendation = some .unban
    · simp [hr] at hpolicy
    · simp [hr] at hpolicy
  | none =>
    rw [ban_of_none hd] at hpolicy ⊢
    cases hlist : ctx.listNamed shortcode with
    | none =>
      rw [hlist] at hpolicy
      cases hpolicy
    | some list =>
      rw [hlist] at hpolicy
      dsimp only at hpolicy ⊢
      rw [banIn_of_none hd rfl] at hpolicy ⊢
      cases ha : (banMutation list entity (Text.unwords words)).answer ctx
          (publication ctx list entity (Text.unwords words) w.store) w with
      | error e =>
        rw [ha] at hpolicy
        cases hpolicy
      | ok eventId =>
        rw [ha] at hpolicy
        cases hpolicy
        exact ⟨list, eventId, rfl, rfl, ha, rfl, rfl⟩

end AsksBan

/-- **A report does what a command would have done.**  In any world, if a report in which an
administrator asks for a ban of a user is acted upon, then the command to ban that user in that list
for that reason, given in the same world by anybody, completes as well, and it sends the same
content to the same list, under the same kind and key, and leaves the same store.  And if the
command is refused because an unban is recommended, so is the report. -/
theorem handle_refines_execute (ctx : Context σ) {report : Report} {shortcode entity : String}
    {words : List String} (h : AsksBan ctx report shortcode entity words) (actor : String)
    (w : World σ) :
    let reported := handle ctx report w
    let commanded :=
      Commands.execute ctx actor (.ban false false shortcode entity (Text.unwords words)) w
    (∀ action, reported.1 = .ok (.policy action) →
      commanded.1 = .ok .reaction ∧
        (∃ content, reported.2.publications = w.publications ++
          [.publish action.listRoom action.kind action.stateKey content]) ∧
        commanded.2.publications = reported.2.publications ∧
        commanded.2.store = reported.2.store) ∧
    ∀ other why, commanded.1 = .error (.conflict (.unbanRecommended other why)) →
      ∃ why', reported.1 = .error (.conflict (.unbanRecommended entity why')) := by
  intro reported commanded
  constructor
  · intro action hpolicy
    obtain ⟨list, eventId, hd, hlist, ha, heffect, hafter⟩ := h.exists_published hpolicy
    let m := commandMutation list entity (Text.unwords words)
    let p := publication ctx list entity (Text.unwords words) w.store
    have hanswer : m.answer ctx p w = .ok eventId := ha
    have hcommanded : commanded = (.ok .reaction, w.published ctx m p actor) :=
      execute_published h.classify_eq hlist hd hanswer actor
    have hpublications : reported.2.publications = w.publications ++ [m.effect p] := by
      rw [hafter, World.publications_shown, World.publications_published]
      rfl
    refine ⟨congrArg Prod.fst hcommanded, ⟨p.content, ?_⟩, ?_, ?_⟩
    · rw [heffect]
      exact hpublications
    · rw [hpublications, hcommanded, World.publications_published]
    · rw [hcommanded, hafter]
      have hreport : (w.published ctx (banMutation list entity (Text.unwords words)) p
          report.reporter).store = _ := World.published_store_of_ok ha report.reporter
      exact (World.published_store_of_ok hanswer actor).trans hreport.symm
  · intro other why hrefused
    obtain ⟨r, hstanding⟩ := exists_standingUnban h.classify_eq hrefused
    obtain ⟨d, hd, hunban⟩ := deciding_of_standingUnban hstanding
    refine ⟨d.content.reason, ?_⟩
    have hban : reported = _ := (h.handle_eq w).trans (ban_of_deciding hd _ _ _)
    rw [hban, if_pos hunban]

/-- An administrator reports a user whom nothing is known of. -/
theorem handle_refines_execute_small :
    let report : Report :=
      { reporter := "@admin:example.org", targetUser := some "@a:b",
        reason := "/ban bans much spam" }
    let reported := handle Context.small report World.small
    let commanded := Commands.execute Context.small "@admin:example.org"
      (.ban false false "bans" "@a:b" "much spam") World.small
    let key := derivedStateKey "@a:b" (some .ban)
    AsksBan Context.small report "bans" "@a:b" ["much", "spam"] ∧
      commanded.1 = .ok .reaction ∧ commanded.2.publications = reported.2.publications ∧
      ∃ content, reported.2.publications = [.publish "!list:example.org" .user key content] := by
  intro report reported commanded key
  have hasks : AsksBan Context.small report "bans" "@a:b" ["much", "spam"] :=
    ⟨by decide, rfl, rfl, by decide, by decide, by decide, by decide, by decide⟩
  let action : PolicyAction :=
    { listRoom := "!list:example.org", listShortcode := "bans", kind := .user, entity := "@a:b",
      recommendation := .ban, reason := "much spam", stateKey := key, eventId := "$event" }
  have hpolicy : (handle Context.small report World.small).1 = .ok (.policy action) := by
    decide +kernel
  have hwords : Text.unwords ["much", "spam"] = "much spam" := by decide
  obtain ⟨hdone, -⟩ := handle_refines_execute Context.small hasks "@admin:example.org" World.small
  obtain ⟨hreaction, ⟨content, hpublished⟩, hsame, -⟩ := hdone action hpolicy
  rw [hwords] at hreaction hsame
  exact ⟨hasks, hreaction, hsame, content, hpublished⟩

end Reports
end Moderation

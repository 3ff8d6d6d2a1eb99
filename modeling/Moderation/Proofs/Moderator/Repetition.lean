import Moderation.Proofs.Moderator.Deeds
import Moderation.Proofs.Moderator.Replacing
/-!
# Doing the same again

What succeeded once changes nothing more if it is asked for again at once, apart from the times of
the rules.  A ban by a command is published again, under the same key and with the same content, and
to record a publication twice is to record it once (`Mutation.recordIn_again`).  An unban finds
itself, and so does a ban by a report: they are refused, and nothing is published
(`Session.again`).
-/

namespace Moderation

/-! ## What is found the second time -/

namespace Decision

variable {found : List PolicyRecord}

/-- An unban that finds an unban is refused. -/
theorem unban_of_mem {u : PolicyRecord} (hu : u ∈ found) (hunban : u.recommendation = some .unban)
    (list entity : String) :
    ∃ why, unban found list entity = .error (.alreadyUnbanned entity why) := by
  obtain ⟨r, hd, hr⟩ := exists_deciding_unban hu hunban
  refine ⟨r.content.reason, ?_⟩
  rw [unban, standingUnban_eq_some hd hr]

/-- A report that finds a ban, and no unban, is refused. -/
theorem reportBan_of_isBan (h : (PolicySummary.ofRecords found).isBan = true)
    (list entity : String) :
    ∃ why, reportBan found list entity = .error (.alreadyBanned entity why) := by
  unfold reportBan reportConflict
  cases hd : (PolicySummary.ofRecords found).deciding with
  | none =>
    rw [PolicySummary.isBan, PolicySummary.recommendation, hd] at h
    cases h
  | some r =>
    have hnot : (PolicySummary.ofRecords found).isUnban = false := by
      unfold PolicySummary.isBan at h
      unfold PolicySummary.isUnban
      cases hrecommends : (PolicySummary.ofRecords found).recommendation with
      | none => rfl
      | some recommendation =>
        rw [hrecommends] at h
        cases recommendation with
        | unban => cases h
        | _ => rfl
    refine ⟨r.content.reason, ?_⟩
    simp only [hd, hnot, Bool.false_eq_true, if_false]

end Decision

namespace Mutation

variable {σ : Type} {ctx : Context σ} {m : Mutation} {store : Store} {records : List PolicyRecord}
  {p : Publication}

/-- **To record a publication twice is to record it once**, apart from the time. -/
theorem recordIn_again (hrule : p.content.isTombstone = false) (sender : String)
    (timestamp timestamp' : Int64) (s : Store) :
    (m.recordIn p sender timestamp' (m.recordIn p sender timestamp s)).undated =
      (m.recordIn p sender timestamp s).undated := by
  have honce : m.recordIn p sender timestamp' (m.recordIn p sender timestamp s) =
      m.recordIn p sender timestamp' s := by
    have hkey : (m.record p sender timestamp').key = (m.record p sender timestamp).key := rfl
    have hpublish := Store.publish_publish hkey hrule hrule s
    unfold recordIn
    split
    · rw [Store.publish_remember, Store.remember_remember, hpublish]
    · exact hpublish
  rw [honce]
  exact m.recordIn_congr p sender timestamp' timestamp rfl

section
variable (ho : Orderly records) (hm : m.Issued ctx) (hne : m.entity ≠ "")
  (hplaced : m.Placed records p) (hrule : p.content.isTombstone = false) (sender : String)
  (timestamp : Int64)
include ho hm hne hplaced hrule

/-- What a mutation has published is found when the mutation is asked for again. -/
theorem mem_found_again :
    m.record p sender timestamp ∈ (publishRecord (m.record p sender timestamp) records).filter
      (m.query ctx.watched).accepts := by
  have hon := hplaced.isOn_record sender timestamp hrule
  exact List.mem_filter.2 ⟨(mem_publishRecord ho.keyed).2 (.inr ⟨rfl, hrule⟩),
    accepts_of_isOn hm hne hrule hon⟩

/-- **The same unban over again** is refused. -/
theorem plan_unban_again {reason : String} (hchange : m.change = .unban reason)
    (hs : store.records? = some (publishRecord (m.record p sender timestamp) records)) :
    ∃ why, m.plan ctx.watched store = .error (.alreadyUnbanned m.entity why) := by
  have hfound := mem_found_again ho hm hne hplaced hrule sender timestamp
  have hunban : (m.record p sender timestamp).recommendation = some .unban := by
    rw [PolicyRecord.recommendation, record, hplaced.recommends, hchange]
    rfl
  obtain ⟨why, hwhy⟩ := Decision.unban_of_mem hfound hunban m.list.roomId m.entity
  refine ⟨why, ?_⟩
  rw [plan, Store.find_eq_filter hs, decide, hchange]
  simp only [hwhy]
  rfl

end

/-- **The same report over again** is refused. -/
theorem plan_reportBan_again (ho : Orderly records) (hm : m.Issued ctx) (hne : m.entity ≠ "")
    {reason : String} (hchange : m.change = .reportBan reason)
    (hs : store.records? = some records) (hplan : m.plan ctx.watched store = .ok p)
    {sender : String} {timestamp : Int64} {store' : Store}
    (hs' : store'.records? = some (publishRecord (m.record p sender timestamp) records)) :
    ∃ why, m.plan ctx.watched store' = .error (.alreadyBanned m.entity why) := by
  have hplaced := placed_of_plan hs ho hm hplan
  have hrecommends : m.change.recommendation? = some .ban := by rw [hchange]; rfl
  have hnone : ∀ r ∈ records.filter (m.query ctx.watched).accepts,
      r.recommendation ≠ some .unban := by
    rw [plan, Store.find_eq_filter hs, decide, hchange] at hplan
    obtain ⟨reuse, hok, -⟩ := exists_of_map_ok hplan
    exact Decision.no_unban_of_reportBan hok
  -- The ban is found now, and still no unban.
  have hisBan : (PolicySummary.ofRecords ((publishRecord (m.record p sender timestamp)
      records).filter (m.query ctx.watched).accepts)).isBan = true := by
    obtain ⟨mode, lists, hlist, hquery⟩ := exists_query hm
    have hnone' := hplaced.no_unban ho hrecommends rfl sender timestamp hnone
    rw [hquery] at hnone' ⊢
    refine (hplaced.isBan_iff ho hrecommends rfl sender timestamp hne rfl rfl ?_).2 hnone'
    intro lists' hlists'
    exact Option.some.inj hlists' ▸ hlist
  obtain ⟨why, hwhy⟩ := Decision.reportBan_of_isBan hisBan m.list.roomId m.entity
  refine ⟨why, ?_⟩
  rw [plan, Store.find_eq_filter hs', decide, hchange]
  simp only [hwhy]
  rfl

end Mutation

/-! ## In a session -/

namespace Reports

variable {σ : Type} {ctx : Context σ} {report : Report} {w v : World σ}

/-- A report asks for the same as before if the homeserver names the same sender for its event. -/
theorem asked?_congr (h : ∀ room event, report.roomId = some room → report.eventId = some event →
      (ctx.homeserver.eventSender room event v.server).1 =
        (ctx.homeserver.eventSender room event w.server).1) :
    asked? ctx report v = asked? ctx report w := by
  have hfetch : (fetchSender ctx report v).1 = (fetchSender ctx report w).1 := by
    unfold fetchSender
    cases hroom : report.roomId with
    | none => rfl
    | some room =>
      cases hevent : report.eventId with
      | none => rfl
      | some event =>
        have hanswer := h room event hroom hevent
        simp only [Act.bind_apply, Act.perform_apply, hanswer]
        cases (ctx.homeserver.eventSender room event w.server).1 <;> rfl
  unfold asked?
  rw [hfetch]

/-- A report whose ban is refused fails with the conflict; nothing is published, and the store is as
it was. -/
theorem handle_of_refused {m : Mutation} {conflict : Conflict}
    (hasked : asked? ctx report w = some m) (hplan : m.plan ctx.watched w.store = .error conflict) :
    (handle ctx report w).1 = .error (.conflict conflict) ∧ w.Still (handle ctx report w).2 := by
  obtain ⟨sender, w₁, list, entity, reason, hl, rfl, hhandle⟩ := handle_of_asked? hasked
  have hlocated : w.Still w₁ := hl.keeps (World.still_keeps w) (.refl w)
  rw [hhandle, banIn, Act.bind_apply, Mutation.run_refused (hlocated.store ▸ hplan)]
  exact ⟨rfl, hlocated⟩

end Reports

namespace Session

variable {σ : Type} {ctx : Context σ} {w : World σ} {records : List PolicyRecord}

section
variable (hs : w.store.records? = some records) (ho : Orderly records)
include hs ho

/-- **A ban by a command that is asked for again** publishes the same again, and the store stays as
it is, apart from the times of its rules. -/
theorem ban_again {c : CommandMessage} {takedown hashed : Bool} {shortcode entity reason : String}
    (hparse : Command.parse c.body = .ok (some (.ban takedown hashed shortcode entity reason)))
    (hdone : (Commands.handle ctx c w).1 = .completed) :
    let once := (Commands.handle ctx c w).2
    let twice := (Commands.handle ctx c once).2
    twice.store.undated = once.store.undated ∧ ∃ listRoom kind stateKey content,
      once.publications = w.publications ++ [.publish listRoom kind stateKey content] ∧
      twice.publications = once.publications ++ [.publish listRoom kind stateKey content] := by
  intro once twice
  obtain ⟨m, p, timestamp, hm, hasked, hplan, hstore, hpublished⟩ :=
    exists_published hparse rfl hdone
  have hplaced := Mutation.placed_of_plan hs ho (issued_of_asked? hasked) hplan
  obtain ⟨list, kind, -, -, heq⟩ := Commands.mutation_eq_ok.1 hm
  have hchange : m.change = .ban (if takedown then .takedown else .ban) reason hashed := by rw [heq]
  have hisBan := Recommendation.isBanLike_ban takedown
  have hrule : p.content.isTombstone = false := hplaced.rule (by rw [hchange]; rfl)
  have hs' : once.store.records? =
      some (publishRecord (m.record p ctx.settings.botUser timestamp) records) :=
    (congrArg Store.records? hstore).trans (Mutation.records?_recordIn hs ho.keyed _ _ _ _)
  have hplan' : m.plan ctx.watched once.store = .ok p :=
    Mutation.plan_ban_again hs ho (issued_of_asked? hasked) hchange hplan _ timestamp hisBan hs'
  have hasked' : asked? ctx (.command c) once = some m := hasked
  obtain ⟨hsent, hstore'⟩ := sent_of_planned hasked' hplan'
  refine ⟨?_, m.list.roomId, m.kind, p.stateKey, p.content, hpublished, hsent⟩
  rcases hstore' with hsame | ⟨timestamp', hrecorded⟩
  · exact congrArg Store.undated hsame
  · have honce : once.store = m.recordIn p ctx.settings.botUser timestamp w.store := hstore
    have htwice : twice.store = m.recordIn p ctx.settings.botUser timestamp' once.store := hrecorded
    rw [htwice, honce, Mutation.recordIn_again hrule]

/-- **An unban that is asked for again** fails, and a notice that says so is all that comes. -/
theorem unban_again {c : CommandMessage} {shortcode entity reason : String}
    (hparse : Command.parse c.body = .ok (some (.addUnban shortcode entity reason)))
    (hdone : (Commands.handle ctx c w).1 = .completed) :
    let once := (Commands.handle ctx c w).2
    ∃ why, Commands.handle ctx c once =
      (.failed, once.shown ctx (Conflict.alreadyUnbanned entity why).message) := by
  intro once
  obtain ⟨m, p, timestamp, hm, hasked, hplan, hstore, -⟩ := exists_published hparse rfl hdone
  have hplaced := Mutation.placed_of_plan hs ho (issued_of_asked? hasked) hplan
  obtain ⟨list, kind, -, hclass, heq⟩ := Commands.mutation_eq_ok.1 hm
  have hchange : m.change = .unban reason := by rw [heq]
  have hentity : m.entity = entity := by rw [heq]
  have hne : m.entity ≠ "" := hentity ▸ Entity.ne_empty_of_classify hclass
  have hrule : p.content.isTombstone = false := hplaced.rule (by rw [hchange]; rfl)
  have hs' : once.store.records? =
      some (publishRecord (m.record p ctx.settings.botUser timestamp) records) :=
    (congrArg Store.records? hstore).trans (Mutation.records?_recordIn hs ho.keyed _ _ _ _)
  obtain ⟨why, hrefused⟩ := Mutation.plan_unban_again ho (issued_of_asked? hasked) hne hplaced
    hrule _ timestamp hchange hs'
  refine ⟨why, ?_⟩
  rw [Commands.handle_of_asked? hasked, Mutation.run_refused hrefused, hentity]
  rfl

/-- **A report that is made again** fails, if the homeserver names the same sender for its event;
nothing is published, and the store stays as it is. -/
theorem report_again {report : Report} {action : PolicyAction}
    (hpolicy : (Reports.handle ctx report w).1 = .ok (.policy action)) (hne : action.entity ≠ "")
    (hsender : ∀ room event, report.roomId = some room → report.eventId = some event →
      (ctx.homeserver.eventSender room event (Reports.handle ctx report w).2.server).1 =
        (ctx.homeserver.eventSender room event w.server).1) :
    let once := (Reports.handle ctx report w).2
    ∃ why, (Reports.handle ctx report once).1 =
        .error (.conflict (.alreadyBanned action.entity why)) ∧
      once.Still (Reports.handle ctx report once).2 := by
  intro once
  obtain ⟨list, reason, hasked⟩ := Reports.exists_asked?_of_policy hpolicy
  have hisDone : (take ctx (.report report) w).1.isDone = true := by
    rw [take_report, hpolicy]
    rfl
  have hasked' : asked? ctx (.report report) w =
      some (Reports.banMutation list action.entity reason) := hasked
  obtain ⟨p, timestamp, hplan, -, hs', -⟩ := exists_placed hs ho hasked' hisDone
  obtain ⟨why, hrefused⟩ := Mutation.plan_reportBan_again ho (issued_of_asked? hasked') hne rfl hs
    hplan hs'
  exact ⟨why, Reports.handle_of_refused ((Reports.asked?_congr hsender).trans hasked) hrefused⟩

end

/-- **To do the same again changes nothing.**  In a session that began with a store that holds
nothing, and in which rules may have been ingested at will, let a command or a report succeed, and
let it be taken again at once.  If it is a ban by a command, the same is published again, under the
same key, and the store is as it was, apart from the times of its rules.  If it is an unban, it
fails for the unban that stands; and if it is a report of a user, whose event has the same sender as
before, it fails for the ban that stands.  Then nothing is published, and the store is as it was. -/
theorem again (ctx : Context σ) (hempty : w.store.records? = some []) (before : List Message) :
    let reached := (run ctx before w).2
    (∀ (c : CommandMessage) (takedown hashed : Bool) (shortcode entity reason : String),
      Command.parse c.body = .ok (some (.ban takedown hashed shortcode entity reason)) →
      (Commands.handle ctx c reached).1 = .completed →
      let once := (Commands.handle ctx c reached).2
      let twice := (Commands.handle ctx c once).2
      twice.store.undated = once.store.undated ∧ ∃ listRoom kind stateKey content,
        once.publications = reached.publications ++ [.publish listRoom kind stateKey content] ∧
        twice.publications = once.publications ++ [.publish listRoom kind stateKey content]) ∧
    (∀ (c : CommandMessage) (shortcode entity reason : String),
      Command.parse c.body = .ok (some (.addUnban shortcode entity reason)) →
      (Commands.handle ctx c reached).1 = .completed →
      let once := (Commands.handle ctx c reached).2
      let twice := (Commands.handle ctx c once).2
      once.Still twice ∧ ∃ why, Commands.handle ctx c once =
        (.failed, once.shown ctx (Conflict.alreadyUnbanned entity why).message)) ∧
    ∀ (report : Report) (action : PolicyAction),
      (Reports.handle ctx report reached).1 = .ok (.policy action) → action.entity ≠ "" →
      let once := (Reports.handle ctx report reached).2
      let twice := (Reports.handle ctx report once).2
      (∀ room event, report.roomId = some room → report.eventId = some event →
        (ctx.homeserver.eventSender room event once.server).1 =
          (ctx.homeserver.eventSender room event reached.server).1) →
      once.Still twice ∧ ∃ why, (Reports.handle ctx report once).1 =
        .error (.conflict (.alreadyBanned action.entity why)) := by
  intro reached
  obtain ⟨records, hs, ho⟩ : ∃ records, reached.store.records? = some records ∧ Orderly records :=
    run_orderly ctx hempty orderly_nil before
  refine ⟨fun c _ _ _ _ _ hparse hdone => ban_again hs ho hparse hdone, ?_, ?_⟩
  · intro c shortcode entity reason hparse hdone once twice
    obtain ⟨why, hwhy⟩ := unban_again hs ho hparse hdone
    have htwice : twice = once.shown ctx (Conflict.alreadyUnbanned entity why).message :=
      congrArg Prod.snd hwhy
    refine ⟨?_, why, hwhy⟩
    rw [htwice]
    exact ⟨rfl, World.publications_shown ctx _ once⟩
  · intro report action hpolicy hne once twice hsender
    obtain ⟨why, hwhy, hstill⟩ := report_again hs ho hpolicy hne hsender
    exact ⟨hstill, why, hwhy⟩

/-- A rule about a user is ingested.  Then that user is banned twice behind its digest; or another
is unbanned twice; or an event is reported twice. -/
theorem again_ingested :
    let report : Report :=
      { reporter := "@admin:example.org", roomId := some "!room:example.org",
        eventId := some "$event", reason := "/ban bans spam" }
    let reached := (run Context.small [.policy (.small "one")] World.small).2
    let banned := (Commands.handle Context.small (.small "!ban --hash bans @a:b spam") reached).2
    let bannedAgain :=
      (Commands.handle Context.small (.small "!ban --hash bans @a:b spam") banned).2
    let unbanned := (Commands.handle Context.small (.small "!add-unban bans @c:d sorry") reached).2
    let reported := (Reports.handle Context.small report reached).2
    (bannedAgain.store.undated = banned.store.undated ∧ ∃ listRoom kind stateKey content,
      banned.publications = reached.publications ++ [.publish listRoom kind stateKey content] ∧
      bannedAgain.publications =
        banned.publications ++ [.publish listRoom kind stateKey content]) ∧
    (∃ why, Commands.handle Context.small (.small "!add-unban bans @c:d sorry") unbanned =
      (.failed, unbanned.shown Context.small (Conflict.alreadyUnbanned "@c:d" why).message)) ∧
    ∃ why, (Reports.handle Context.small report reported).1 =
      .error (.conflict (.alreadyBanned "@sender:example.org" why)) := by
  have hban : Command.parse "!ban --hash bans @a:b spam" =
      .ok (some (.ban false true "bans" "@a:b" "spam")) := by
    decide +kernel
  have hunban : Command.parse "!add-unban bans @c:d sorry" =
      .ok (some (.addUnban "bans" "@c:d" "sorry")) := by
    decide +kernel
  have hbanned : (Commands.handle Context.small (.small "!ban --hash bans @a:b spam")
      (run Context.small [.policy (.small "one")] World.small).2).1 = .completed := by
    decide +kernel
  have hunbanned : (Commands.handle Context.small (.small "!add-unban bans @c:d sorry")
      (run Context.small [.policy (.small "one")] World.small).2).1 = .completed := by
    decide +kernel
  have hreported : (Reports.handle Context.small
      { reporter := "@admin:example.org", roomId := some "!room:example.org",
        eventId := some "$event", reason := "/ban bans spam" }
      (run Context.small [.policy (.small "one")] World.small).2).1 =
      .ok (.policy
        { listRoom := "!list:example.org", listShortcode := "bans", kind := .user,
          entity := "@sender:example.org", recommendation := .ban, reason := "spam",
          stateKey := derivedStateKey "@sender:example.org" (some .ban),
          eventId := "$event" }) := by
    decide +kernel
  have hempty : World.small.store.records? = some [] := rfl
  obtain ⟨hbans, hunbans, hreports⟩ := again Context.small hempty [.policy (.small "one")]
  have hbansAgain := hbans (.small "!ban --hash bans @a:b spam") false true "bans" "@a:b" "spam"
    hban hbanned
  have hunbansAgain := hunbans (.small "!add-unban bans @c:d sorry") "bans" "@c:d" "sorry" hunban
    hunbanned
  have hne : "@sender:example.org" ≠ "" := by decide
  have hreportsAgain := hreports _ _ hreported hne fun _ _ _ _ => rfl
  exact ⟨hbansAgain, hunbansAgain.2, hreportsAgain.2⟩

end Session
end Moderation

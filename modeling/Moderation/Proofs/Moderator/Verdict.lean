import Moderation.Proofs.Moderator.StandingUnban
import Moderation.Proofs.Moderator.Upkeep
import Moderation.Proofs.Store.History
/-!
# When a ban takes effect

The **verdict** on an entity is what the watched lists amount to, among the rules that match it
exactly or by pattern (`World.verdict`).  It is a ban if some rule bans and none unbans
(`PolicySummary.isBan_ofRecords`), so a ban takes effect if no unban is among the rules that match.

A command that bans is refused if it finds an unban, and looks for rules that match exactly: after
it has completed the exact verdict is a ban, and so is the one by pattern, unless an unban covers
the entity with wildcards.  A report that bans looks for rules that match by pattern, so that the
verdict by pattern is a ban after it (`Session.bans_take_effect`).
-/

namespace Moderation

variable {σ : Type} {ctx : Context σ}

/-! ## What makes a ban -/

/-- Whether the deciding rule is a ban or a takedown. -/
def PolicySummary.isBan (s : PolicySummary) : Bool := s.recommendation.any Recommendation.isBanLike

/-- A command that bans or takes down recommends a ban. -/
theorem Recommendation.isBanLike_ban (takedown : Bool) :
    (if takedown then Recommendation.takedown else .ban).isBanLike = true := by
  cases takedown <;> rfl

/-- **The summary is a ban if some rule bans and none unbans.** -/
theorem PolicySummary.isBan_ofRecords {found : List PolicyRecord} :
    (ofRecords found).isBan = true ↔
      (∃ r ∈ found, recommendsBan r = true) ∧ ∀ r ∈ found, r.recommendation ≠ some .unban := by
  constructor
  · intro h
    refine ⟨?_, fun u hu hunban => ?_⟩
    · cases hd : (ofRecords found).deciding with
      | none =>
        rw [isBan, recommendation, hd] at h
        cases h
      | some r =>
        have hban : recommendsBan r = true := by
          rw [isBan, recommendation, hd] at h
          exact h
        exact ⟨r, mem_of_deciding hd, hban⟩
    · obtain ⟨r, hd, hr⟩ := exists_deciding_unban hu hunban
      rw [isBan, recommendation, hd, Option.bind_some, hr] at h
      cases h
  · rintro ⟨⟨r, hr, hban⟩, hnone⟩
    have hunban : found.find? recommendsUnban = none :=
      List.find?_eq_none.2 fun u hu => by simpa [recommendsUnban] using hnone u hu
    obtain ⟨d, hd⟩ : ∃ d, found.find? recommendsBan = some d := by
      cases hfind : found.find? recommendsBan with
      | none => exact absurd hban (List.find?_eq_none.1 hfind r hr)
      | some d => exact ⟨d, rfl⟩
    have hbans : recommendsBan d = true := List.find?_some hd
    rw [isBan, recommendation, deciding_ofRecords, hunban, Option.none_or, hd, Option.bind_some]
    exact hbans

/-- A command bans only if it finds no unban. -/
theorem Decision.no_unban_of_ban {found : List PolicyRecord} {list entity : String}
    {reuse : Option String} (h : ban found list entity = .ok reuse) :
    ∀ r ∈ found, r.recommendation ≠ some .unban := by
  intro u hu hunban
  obtain ⟨why, hrefused⟩ := ban_of_unban hu hunban list entity
  rw [hrefused] at h
  cases h

/-- A report bans only if it finds no unban. -/
theorem Decision.no_unban_of_reportBan {found : List PolicyRecord} {list entity : String}
    {reuse : Option String} (h : reportBan found list entity = .ok reuse) :
    ∀ r ∈ found, r.recommendation ≠ some .unban := by
  intro u hu hunban
  obtain ⟨why, hrefused⟩ := reportBan_of_unban hu hunban list entity
  rw [hrefused] at h
  cases h

/-- What the lists that are watched amount to for an entity of a kind. -/
def World.verdict (ctx : Context σ) (w : World σ) (mode : MatchMode) (kind : EntityKind)
    (entity : String) : PolicySummary :=
  .ofRecords (w.store.find { mode, lists := some ctx.watched, kind, value := entity })

theorem World.verdict_eq {w : World σ} {records : List PolicyRecord}
    (hs : w.store.records? = some records) (mode : MatchMode) (kind : EntityKind)
    (entity : String) :
    w.verdict ctx mode kind entity = .ofRecords (records.filter
      (PolicyQuery.accepts { mode, lists := some ctx.watched, kind, value := entity })) := by
  rw [verdict, Store.find_eq_filter hs]

/-! ## The verdict after a ban -/

theorem PolicyContent.IsAbout.names {c : PolicyContent} {entity : String} (h : c.IsAbout entity)
    (hne : entity ≠ "") : c.Names entity := by
  rcases h with ⟨rfl, -⟩ | ⟨hempty, -, hdigest⟩
  · exact .inl ⟨hne, rfl⟩
  · exact .inr ⟨hempty, hdigest⟩

namespace Mutation.Placed

variable {m : Mutation} {records : List PolicyRecord} {p : Publication}
  {recommendation : Recommendation} (h : m.Placed records p) (ho : Orderly records)
  (hchange : m.change.recommendation? = some recommendation)
  (hban : recommendation.isBanLike = true) (sender : String) (timestamp : Int64) {q : PolicyQuery}
include h ho hchange hban

/-- **The verdict after a ban** is a ban unless an unban is among the rules that are found. -/
theorem isBan_iff (hne : m.entity ≠ "") (hkind : q.kind = m.kind) (hv : q.value = m.entity)
    (hscope : ∀ lists, q.lists = some lists → m.list.roomId ∈ lists) :
    (PolicySummary.ofRecords ((publishRecord (m.record p sender timestamp) records).filter
        q.accepts)).isBan = true ↔
      ∀ r ∈ publishRecord (m.record p sender timestamp) records, q.accepts r = true →
        r.recommendation ≠ some .unban := by
  have hrule := h.rule hchange
  have hmem : m.record p sender timestamp ∈ publishRecord (m.record p sender timestamp) records :=
    (mem_publishRecord ho.keyed).2 (.inr ⟨rfl, hrule⟩)
  have haccepts : q.accepts (m.record p sender timestamp) = true :=
    (PolicyQuery.accepts_iff hrule).2
      ⟨hkind.symm, hscope, .inl (hv ▸ (h.about hrule).names hne)⟩
  have hbans : PolicySummary.recommendsBan (m.record p sender timestamp) = true := by
    rw [PolicySummary.recommendsBan, PolicyRecord.recommendation, record, h.recommends, hchange]
    exact hban
  rw [PolicySummary.isBan_ofRecords]
  constructor
  · rintro ⟨-, hnone⟩ r hr ha
    exact hnone r (List.mem_filter.2 ⟨hr, ha⟩)
  · intro hnone
    refine ⟨⟨_, List.mem_filter.2 ⟨hmem, haccepts⟩, hbans⟩, fun r hr => ?_⟩
    exact hnone r (List.mem_filter.1 hr).1 (List.mem_filter.1 hr).2

/-- No unban is found after a ban if none was found before it. -/
theorem no_unban (hnone : ∀ r ∈ records.filter q.accepts, r.recommendation ≠ some .unban) :
    ∀ r ∈ publishRecord (m.record p sender timestamp) records, q.accepts r = true →
      r.recommendation ≠ some .unban := by
  intro r hr ha
  rcases (mem_publishRecord ho.keyed).1 hr with ⟨hr, -⟩ | ⟨rfl, -⟩
  · exact hnone r (List.mem_filter.2 ⟨hr, ha⟩)
  · rw [PolicyRecord.recommendation, record, h.recommends, hchange]
    intro hunban
    rw [Option.some.inj hunban] at hban
    cases hban

end Mutation.Placed

/-- Where no unban matches exactly, none matches by pattern unless one covers the entity. -/
theorem no_unban_pattern {records : List PolicyRecord} (ho : Orderly records)
    {lists : List String} {kind : EntityKind} {entity : String}
    (hexact : ∀ r ∈ records,
      PolicyQuery.accepts { mode := .exact, lists := some lists, kind, value := entity } r = true →
      r.recommendation ≠ some .unban) :
    (∀ r ∈ records,
        PolicyQuery.accepts { mode := .pattern, lists := some lists, kind, value := entity } r =
          true → r.recommendation ≠ some .unban) ↔
      ∀ r ∈ records, r.listRoom ∈ lists → r.kind = kind → r.recommendation = some .unban →
        ¬r.content.Covers entity := by
  constructor
  · intro hnone r hr hl hk hunban hcovers
    refine hnone r hr ((PolicyQuery.accepts_iff (ho.rule r hr)).2 ?_) hunban
    refine ⟨hk, fun lists' hlists => ?_, .inr ⟨rfl, hcovers⟩⟩
    exact Option.some.inj hlists ▸ hl
  · intro hnone r hr haccepts hunban
    have hselects := (PolicyQuery.accepts_iff (ho.rule r hr)).1 haccepts
    rcases hselects.about with hnames | ⟨-, hcovers⟩
    · refine hexact r hr ((PolicyQuery.accepts_iff (ho.rule r hr)).2 ?_) hunban
      exact ⟨hselects.kind, hselects.scope, .inl hnames⟩
    · exact hnone r hr (hselects.scope _ rfl) hselects.kind hunban hcovers

/-- A report that is acted upon has asked for the ban that it says was made. -/
theorem Reports.exists_asked?_of_policy {report : Report} {w : World σ} {action : PolicyAction}
    (h : (handle ctx report w).1 = .ok (.policy action)) :
    ∃ list reason, asked? ctx report w = some (banMutation list action.entity reason) := by
  obtain ⟨result, w', hcase⟩ := exists_handled ctx report w
  rw [hcase.handle_eq] at h
  cases hcase with
  | unfetched => cases h
  | shown => cases h
  | escalated hl hadmin hcommand hwords he =>
    cases he with
    | published hv hargs _ hlist hreason =>
      subst hargs hreason
      cases h
      exact ⟨_, _, asked?_of_located hl hadmin hcommand hwords hv hlist⟩
    | _ => cases h

namespace Session

variable {w : World σ} {records : List PolicyRecord}

/-- **After a command that bans has completed** the exact verdict is a ban, and the verdict by
pattern is one exactly if no unban covers the entity. -/
theorem verdict_of_command (hs : w.store.records? = some records) (ho : Orderly records)
    {c : CommandMessage} {takedown hashed : Bool} {shortcode entity reason : String}
    (hparse : Command.parse c.body = .ok (some (.ban takedown hashed shortcode entity reason)))
    (hdone : (Commands.handle ctx c w).1 = .completed) :
    ∃ kind records', Entity.classify entity = some kind ∧
      (Commands.handle ctx c w).2.store.records? = some records' ∧
      ((Commands.handle ctx c w).2.verdict ctx .exact kind entity).isBan = true ∧
      (((Commands.handle ctx c w).2.verdict ctx .pattern kind entity).isBan = true ↔
        ∀ r ∈ records', r.listRoom ∈ ctx.watched → r.kind = kind →
          r.recommendation = some .unban → ¬r.content.Covers entity) := by
  obtain ⟨m, hm, hasked⟩ := Commands.exists_asked? hparse rfl hdone
  obtain ⟨list, kind, -, hclass, rfl⟩ := Commands.mutation_eq_ok.1 hm
  have hisDone : (take ctx (.command c) w).1.isDone = true := by
    rw [take_command, hdone]
    rfl
  have hasked' : asked? ctx (.command c) w = some _ := hasked
  obtain ⟨p, timestamp, hplan, hplaced, hs', -⟩ := exists_placed hs ho hasked' hisDone
  have hissued := issued_of_asked? hasked'
  have hne : entity ≠ "" := hissued.entity_ne_empty (by simp)
  have hban := Recommendation.isBanLike_ban takedown
  obtain ⟨reuse, hok, -⟩ := Mutation.exists_of_map_ok hplan
  rw [Store.find_eq_filter hs] at hok
  have hfound := Decision.no_unban_of_ban hok
  have hexact := hplaced.no_unban ho rfl hban ctx.settings.botUser timestamp hfound
  have hafter := hplaced.orderly ho ctx.settings.botUser timestamp
  rw [take_command] at hs'
  refine ⟨kind, _, hclass, hs', ?_, ?_⟩
  · rw [World.verdict_eq hs']
    exact (hplaced.isBan_iff ho rfl hban _ _ hne rfl rfl hissued.scope).2 hexact
  · rw [World.verdict_eq hs']
    exact (hplaced.isBan_iff ho rfl hban _ _ hne rfl rfl hissued.scope).trans
      (no_unban_pattern hafter hexact)

/-- **After a report on a user has been acted upon** the verdict by pattern is a ban. -/
theorem verdict_of_report (hs : w.store.records? = some records) (ho : Orderly records)
    {report : Report} {action : PolicyAction}
    (hpolicy : (Reports.handle ctx report w).1 = .ok (.policy action))
    (hclass : Entity.classify action.entity = some .user) :
    ((Reports.handle ctx report w).2.verdict ctx .pattern .user action.entity).isBan = true := by
  obtain ⟨list, reason, hasked⟩ := Reports.exists_asked?_of_policy hpolicy
  have hisDone : (take ctx (.report report) w).1.isDone = true := by
    rw [take_report, hpolicy]
    rfl
  have hasked' : asked? ctx (.report report) w =
      some (Reports.banMutation list action.entity reason) := hasked
  have hissued := issued_of_asked? hasked'
  obtain ⟨p, timestamp, hplan, hplaced, hs', -⟩ := exists_placed hs ho hasked' hisDone
  have hne : action.entity ≠ "" := by
    intro hempty
    rw [hempty] at hclass
    cases hclass
  obtain ⟨reuse, hok, -⟩ := Mutation.exists_of_map_ok hplan
  rw [Store.find_eq_filter hs] at hok
  have hfound := Decision.no_unban_of_reportBan hok
  rw [take_report] at hs'
  rw [World.verdict_eq hs']
  exact (hplaced.isBan_iff ho rfl rfl _ _ hne rfl rfl hissued.scope).2
    (hplaced.no_unban ho rfl rfl _ _ hfound)

/-- **Bans take effect.**  In a session that began with a store that holds nothing, and in which
rules may have been ingested at will, let a command to ban an entity, or to take it down, complete:
then the exact verdict on the entity is a ban, and the verdict by pattern is one exactly if no unban
in a list that is watched covers the entity.  And let a report be acted upon that is about a user:
then the verdict by pattern on that user is a ban. -/
theorem bans_take_effect (ctx : Context σ) (hempty : w.store.records? = some [])
    (before : List Message) :
    (∀ (c : CommandMessage) (takedown hashed : Bool) (shortcode entity reason : String),
      Command.parse c.body = .ok (some (.ban takedown hashed shortcode entity reason)) →
      (Commands.handle ctx c (run ctx before w).2).1 = .completed →
      ∃ kind records, Entity.classify entity = some kind ∧
        (Commands.handle ctx c (run ctx before w).2).2.store.records? = some records ∧
        ((Commands.handle ctx c (run ctx before w).2).2.verdict ctx .exact kind entity).isBan =
          true ∧
        (((Commands.handle ctx c (run ctx before w).2).2.verdict ctx .pattern kind entity).isBan =
            true ↔
          ∀ r ∈ records, r.listRoom ∈ ctx.watched → r.kind = kind →
            r.recommendation = some .unban → ¬r.content.Covers entity)) ∧
    ∀ (report : Report) (action : PolicyAction),
      (Reports.handle ctx report (run ctx before w).2).1 = .ok (.policy action) →
      Entity.classify action.entity = some .user →
      ((Reports.handle ctx report (run ctx before w).2).2.verdict ctx .pattern .user
        action.entity).isBan = true := by
  obtain ⟨records, hs, ho⟩ := run_orderly ctx hempty orderly_nil before
  exact ⟨fun _ _ _ _ _ _ hparse hdone => verdict_of_command hs ho hparse hdone,
    fun _ _ hpolicy hclass => verdict_of_report hs ho hpolicy hclass⟩

/-- An unban of a whole server is ingested, and then users of another server are banned, one by a
command and one by a report. -/
theorem bans_take_effect_elsewhere :
    let unban : PolicyRecord :=
      { listRoom := "!list:example.org", kind := .user, stateKey := "key",
        sender := "@mod:example.org",
        content := { entity := "@*:c", reason := "sorry", recommendation := some .unban } }
    let reached := (run Context.small [.policy unban] World.small).2
    let banned := (Commands.handle Context.small (.small "!ban bans @a:b spam") reached).2
    let report : Report :=
      { reporter := "@admin:example.org", targetUser := some "@a:b", reason := "/ban bans spam" }
    let reported := (Reports.handle Context.small report reached).2
    (∃ kind records, Entity.classify "@a:b" = some kind ∧
      banned.store.records? = some records ∧
      (banned.verdict Context.small .exact kind "@a:b").isBan = true ∧
      ((banned.verdict Context.small .pattern kind "@a:b").isBan = true ↔
        ∀ r ∈ records, r.listRoom ∈ Context.small.watched → r.kind = kind →
          r.recommendation = some .unban → ¬r.content.Covers "@a:b")) ∧
    (reported.verdict Context.small .pattern .user "@a:b").isBan = true := by
  intro unban reached banned report reported
  have hempty : World.small.store.records? = some [] := rfl
  have hparse : Command.parse "!ban bans @a:b spam" =
      .ok (some (.ban false false "bans" "@a:b" "spam")) := by
    decide +kernel
  have hdone : (Commands.handle Context.small (.small "!ban bans @a:b spam") reached).1 =
      .completed := by
    decide +kernel
  let action : PolicyAction :=
    { listRoom := "!list:example.org", listShortcode := "bans", kind := .user, entity := "@a:b",
      recommendation := .ban, reason := "spam", stateKey := derivedStateKey "@a:b" (some .ban),
      eventId := "$event" }
  have hpolicy : (Reports.handle Context.small report reached).1 = .ok (.policy action) := by
    decide +kernel
  have hclass : Entity.classify "@a:b" = some .user := by decide
  obtain ⟨hcommand, hreport⟩ := bans_take_effect Context.small hempty [.policy unban]
  have hbanned :=
    hcommand (.small "!ban bans @a:b spam") false false "bans" "@a:b" "spam" hparse hdone
  have hreported := hreport report action hpolicy hclass
  exact ⟨hbanned, hreported⟩

/-- An unban of a whole server is ingested, and then a user of that server is banned by a command:
the command completes, but the verdict on the user goes on to be an unban. -/
theorem covering_unban_stands :
    let unban : PolicyRecord :=
      { listRoom := "!list:example.org", kind := .user, stateKey := "key",
        sender := "@mod:example.org",
        content := { entity := "@*:b", reason := "sorry", recommendation := some .unban } }
    let reached := (run Context.small [.policy unban] World.small).2
    let after := Commands.handle Context.small (.small "!ban bans @a:b spam") reached
    Command.parse "!ban bans @a:b spam" = .ok (some (.ban false false "bans" "@a:b" "spam")) ∧
      after.1 = .completed ∧ (after.2.verdict Context.small .pattern .user "@a:b").isUnban = true ∧
      (after.2.verdict Context.small .pattern .user "@a:b").isBan = false := by
  intro unban reached after
  have hparse : Command.parse "!ban bans @a:b spam" =
      .ok (some (.ban false false "bans" "@a:b" "spam")) := by
    decide +kernel
  have hdone : after.1 = .completed := by decide +kernel
  have hunban : (after.2.verdict Context.small .pattern .user "@a:b").recommendation =
      some .unban := by
    decide +kernel
  refine ⟨hparse, hdone, ?_, ?_⟩
  · rw [PolicySummary.isUnban, hunban]
    rfl
  · rw [PolicySummary.isBan, hunban]
    rfl

end Session
end Moderation

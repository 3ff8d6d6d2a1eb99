import Moderation.Proofs.Moderator.Linearizability
import Moderation.Proofs.Moderator.Reporting
import Moderation.Proofs.Store.Kinds
/-!
# Reports that ask for a ban

What a report on a user finds where the only rules about that user are bans: it goes ahead if there
is none, and is told that the user is banned already if there is one
(`Reports.OnlyBans.plan_cases`).  Once its ban is recorded there is one, and there are still only
bans (`Reports.OnlyBans.recordIn`).

A report is taken with what the world gives it (`BanReport`).  Handled alone it is answered from
what comes of its mutation (`BanReport.handle_fst`); beside others it is a task, which is followed
through its phases (`BanReport.Follows.advance`).
-/

namespace Moderation

variable {σ : Type} {ctx : Context σ} {entity : String}

/-! ## What a report finds -/

/-- A publication of a ban of an entity. -/
structure Publication.Bans (p : Publication) (entity : String) : Prop where
  about : p.content.IsAbout entity
  recommends : p.content.recommendation = some .ban

namespace Reports

/-- The rules about users can be read, and those that match an entity are bans. -/
structure OnlyBans (ctx : Context σ) (entity : String) (store : Store) : Prop where
  readable : ∃ records, store.recordsOf? .user = some records
  bans : ∀ r ∈ store.find (query ctx entity), r.recommendation = some .ban

variable {store : Store} {list : WatchedList} {reason : String}

/-- **Where only bans match an entity a report on it goes ahead if nothing does**, and otherwise is
told that the entity is banned already. -/
theorem OnlyBans.plan_cases (h : OnlyBans ctx entity store) (list : WatchedList)
    (reason : String) :
    (store.find (query ctx entity) = [] ∧
      ∃ p, (banMutation list entity reason).plan ctx.watched store = .ok p ∧ p.Bans entity) ∨
    (store.find (query ctx entity) ≠ [] ∧ ∃ why,
      (banMutation list entity reason).plan ctx.watched store =
        .error (.alreadyBanned entity why)) := by
  cases hd : deciding ctx entity store with
  | none =>
    refine .inl ⟨?_, _, plan_of_none hd, .inl ⟨rfl, rfl⟩, rfl⟩
    -- A ban decides, so nothing matches where nothing decides.
    refine List.eq_nil_iff_forall_not_mem.2 fun r hr => ?_
    rw [deciding, PolicySummary.deciding_ofRecords] at hd
    obtain ⟨-, hban⟩ := Option.or_eq_none_iff.1 hd
    have hnone := List.find?_eq_none.1 hban r hr
    simp [PolicySummary.recommendsBan, h.bans r hr, Recommendation.isBanLike] at hnone
  | some r =>
    have hr : r ∈ store.find (query ctx entity) := PolicySummary.mem_of_deciding hd
    have hconflict : Decision.reportConflict
        (store.find ((banMutation list entity reason).query ctx.watched)) entity =
          .error (.alreadyBanned entity r.content.reason) :=
      (reportConflict_of_deciding hd).trans (if_neg (by simp [h.bans r hr]))
    exact .inr ⟨List.ne_nil_of_mem hr, r.content.reason,
      Mutation.plan_of_reportConflict rfl hconflict⟩

/-- A report that plans finds nothing, and what it plans is a ban. -/
theorem OnlyBans.of_plan_ok (h : OnlyBans ctx entity store) {p : Publication}
    (hplan : (banMutation list entity reason).plan ctx.watched store = .ok p) :
    store.find (query ctx entity) = [] ∧ p.Bans entity := by
  obtain ⟨hnil, p', hplan', hp'⟩ | ⟨-, why, hrefused⟩ := h.plan_cases list reason
  · rw [hplan] at hplan'
    exact ⟨hnil, Except.ok.inj hplan' ▸ hp'⟩
  · rw [hplan] at hrefused
    cases hrefused

/-- A report that is refused is told that its entity is banned already. -/
theorem OnlyBans.of_plan_error (h : OnlyBans ctx entity store) {conflict : Conflict}
    (hplan : (banMutation list entity reason).plan ctx.watched store = .error conflict) :
    ∃ why, conflict = .alreadyBanned entity why := by
  obtain ⟨-, p, hplan', -⟩ | ⟨-, why, hrefused⟩ := h.plan_cases list reason
  · rw [hplan] at hplan'
    cases hplan'
  · rw [hplan] at hrefused
    exact ⟨why, Except.error.inj hrefused⟩

/-- **A ban of an entity that is recorded matches the entity**, and all that matches it is still a
ban. -/
theorem OnlyBans.recordIn (h : OnlyBans ctx entity store) (hentity : entity ≠ "")
    (hlist : list.roomId ∈ ctx.watched) {p : Publication} (hp : p.Bans entity) (sender : String)
    (timestamp : Int64) :
    let store' := (banMutation list entity reason).recordIn p sender timestamp store
    OnlyBans ctx entity store' ∧ store'.find (query ctx entity) ≠ [] := by
  intro store'
  obtain ⟨records, hrecords⟩ := h.readable
  let r := (banMutation list entity reason).record p sender timestamp
  have hrule : r.content.isTombstone = false := by
    simp [r, Mutation.record, PolicyContent.isTombstone, hp.recommends]
  have hrecords' : store'.recordsOf? .user = some (publishRecord r records) := by
    have hpublish : (store.publish r).recordsOf? r.kind = some (publishRecord r records) :=
      Store.recordsOf?_publish hrecords hrule
    simp only [store', Mutation.recordIn]
    split
    · rw [Store.recordsOf?_remember]
      exact hpublish
    · exact hpublish
  have hfind : store.find (query ctx entity) = records.filter (query ctx entity).accepts :=
    Store.find_eq_filter_of_kind hrecords
  have hfind' : store'.find (query ctx entity) =
      (publishRecord r records).filter (query ctx entity).accepts :=
    Store.find_eq_filter_of_kind hrecords'
  refine ⟨⟨⟨_, hrecords'⟩, fun q hq => ?_⟩, List.ne_nil_of_mem (a := r) ?_⟩
  · rw [hfind'] at hq
    obtain ⟨hq, haccepts⟩ := List.mem_filter.1 hq
    rcases mem_of_mem_publishRecord hq with rfl | hq
    · exact hp.recommends
    · exact h.bans q (by rw [hfind]; exact List.mem_filter.2 ⟨hq, haccepts⟩)
  · have hconcerns : r.content.concerns .pattern entity = true :=
      hp.about.concerns hrule hentity .pattern
    have haccepts : (query ctx entity).accepts r = true := by
      simp only [PolicyQuery.accepts, query, hconcerns, Option.all_some, Bool.and_true]
      simp [r, Mutation.record, banMutation, hlist]
    rw [hfind']
    exact List.mem_filter.2 ⟨mem_publishRecord_self hrule records, haccepts⟩

end Reports

/-! ## A report and its task -/

/-- A report of an administrator that asks for a ban of an entity in a list that is configured, and
what the world gives it. -/
structure BanReport (ctx : Context σ) (entity : String) where
  reporter : String
  text : String
  shortcode : String
  reason : String
  list : WatchedList
  answer : Answer String
  timestamp : Int64
  admin : ctx.isAdmin reporter = true
  asks : ReportCommand.parse text = .ok (some (.ban shortcode reason))
  listed : ctx.listNamed shortcode = some list

namespace BanReport

variable (r : BanReport ctx entity)

/-- The mutation that a report asks for. -/
def mutation : Mutation := Reports.banMutation r.list entity r.reason

/-- A report before it has begun. -/
def task : Task where
  mutation := r.mutation
  answer := r.answer
  timestamp := r.timestamp

/-- What a report is answered with, from what came of its mutation. -/
def outcome : Except MutationFailure Published → Except ReportError ReportOutcome
  | .ok done => .ok (.policy (Reports.actionOf r.mutation done))
  | .error failure => .error (.ofFailure failure)

theorem isCommand : ReportCommand.isCommand r.text = true := by
  by_contra hnot
  have hasks := r.asks
  rw [ReportCommand.parse, if_neg hnot] at hasks
  cases hasks

theorem escalate_fst (w : World σ) :
    (Reports.escalate ctx r.reporter entity r.text w).1 =
      r.outcome (r.mutation.run ctx r.reporter w).1 := by
  have hban : Reports.escalate ctx r.reporter entity r.text w =
      Reports.banIn ctx r.reporter entity r.reason r.list w := by
    rw [← Reports.ban_eq_banIn r.listed]
    unfold Reports.escalate
    rw [r.asks]
  rw [hban]
  unfold Reports.banIn mutation
  rw [Act.bind_apply]
  rcases (Reports.banMutation r.list entity r.reason).run ctx r.reporter w with ⟨result, w'⟩
  match result with
  | .ok done => rfl
  | .error (.conflict c) => rfl
  | .error (.unpublished e) => rfl

/-- **That is what a report is answered with when it is handled alone**, be its target the user that
it names or the one who sent its event. -/
theorem handle_fst {report : Report} {sender : Option String} {w w₁ : World σ}
    (hl : Reports.Located ctx report w sender (some entity) w₁)
    (hreporter : report.reporter = r.reporter) (htext : report.reason = r.text) :
    (Reports.handle ctx report w).1 = r.outcome (r.mutation.run ctx r.reporter w₁).1 := by
  obtain ⟨hfetch, htarget⟩ := hl.fetchSender_eq
  unfold Reports.handle
  rw [Act.bind_apply, hfetch]
  simp only [htarget, hreporter, htext, r.admin, r.isCommand, Bool.and_self, if_true]
  exact r.escalate_fst w₁

/-- How a report on an entity ends beside others. -/
inductive Ends : Except ReportError ReportOutcome → Prop
  | policy (done : Published) (hanswer : r.answer = .ok done.eventId) :
    Ends (.ok (.policy (Reports.actionOf r.mutation done)))
  | alreadyBanned (why : String) : Ends (.error (.conflict (.alreadyBanned entity why)))
  /-- The homeserver did not take the publication. -/
  | unpublished (e : HomeserverError) (hanswer : r.answer = .error e) :
    Ends (.error (.unpublished e))

/-- A task is that of a report, wherever it is. -/
structure Follows (t : Task) : Prop where
  mutation : t.mutation = r.mutation
  plans : ∀ p, t.phase.publication? = some p → p.Bans entity
  answer : t.answer = r.answer
  answered : ∀ p answer, t.phase = .answered p answer → answer = r.answer
  ends : ∀ result, t.phase.result? = some result → r.Ends (r.outcome result)

variable {r}

/-- It is so if it goes on to a phase in which it has nothing planned. -/
theorem Follows.goOn {t : Task} (h : r.Follows t) {phase : Phase}
    (hnone : phase.publication? = none)
    (hends : ∀ result, phase.result? = some result → r.Ends (r.outcome result)) :
    r.Follows { t with phase } where
  mutation := h.mutation
  plans := fun p hp => by rw [hnone] at hp; cases hp
  answer := h.answer
  answered := fun p answer (hphase : phase = _) => by rw [hphase] at hnone; cases hnone
  ends := hends

variable {s : Interleaving} {t : Task}

/-- A report begins by waiting, unless its entity is banned already. -/
theorem Follows.begin_cases (hf : r.Follows t) (hstore : Reports.OnlyBans ctx entity s.store) :
    s.begin ctx.watched t.mutation = .waiting ∨ ∃ why,
      s.begin ctx.watched t.mutation =
        .over (.error (.conflict (.alreadyBanned entity why))) := by
  rcases s.begin_result ctx.watched t.mutation with hbegin | ⟨conflict, hbegin, hplan⟩
  · exact .inl hbegin
  · rw [hf.mutation] at hplan
    obtain ⟨why, rfl⟩ := hstore.of_plan_error hplan
    exact .inr ⟨why, hbegin⟩

/-- **A task is still that of its report after a step**, if the only rules on the entity are
bans. -/
theorem Follows.advance (hf : r.Follows t) (hstore : Reports.OnlyBans ctx entity s.store)
    {sender : String} {phase : Phase} {store : Store} {sent : List (Mutation × Publication)}
    (h : s.Advance ctx.watched sender t phase store sent) : r.Follows { t with phase } := by
  cases h with
  | begin hphase =>
    obtain hbegin | ⟨why, hbegin⟩ := hf.begin_cases hstore <;> rw [hbegin]
    · exact hf.goOn rfl nofun
    · refine hf.goOn rfl ?_
      rintro _ ⟨⟩
      exact .alreadyBanned why
  | lock => exact hf.goOn rfl nofun
  | plan hphase p hplan =>
    rw [hf.mutation] at hplan
    have hp : p.Bans entity := (hstore.of_plan_ok hplan).2
    exact ⟨hf.mutation, by rintro _ ⟨⟩; exact hp, hf.answer, nofun, nofun⟩
  | refuse hphase conflict hplan =>
    rw [hf.mutation] at hplan
    obtain ⟨why, rfl⟩ := hstore.of_plan_error hplan
    refine hf.goOn rfl ?_
    rintro _ ⟨⟩
    exact .alreadyBanned why
  | send p hphase =>
    have hp : p.Bans entity := hf.plans p (by rw [hphase]; rfl)
    exact ⟨hf.mutation, by rintro _ ⟨⟩; exact hp, hf.answer,
      by rintro _ _ ⟨⟩; exact hf.answer, nofun⟩
  | settle p eventId hphase =>
    refine hf.goOn rfl ?_
    rintro _ ⟨⟩
    exact .policy _ (hf.answered p _ hphase).symm
  | fail p e hphase =>
    refine hf.goOn rfl ?_
    rintro _ ⟨⟩
    exact .unpublished e (hf.answered p _ hphase).symm
  | leave result hphase =>
    refine hf.goOn rfl ?_
    rintro _ ⟨⟩
    exact hf.ends result (by rw [hphase]; rfl)

end BanReport

end Moderation

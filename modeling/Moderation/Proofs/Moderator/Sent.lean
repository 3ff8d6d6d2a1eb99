import Moderation.Proofs.Moderator.Session
import Moderation.Proofs.Moderator.Planning
/-!
# What is sent to the lists

A request sends at most one publication, the one that its mutation plans (`Session.planned?`), and
nothing else sends any: what the homeserver is asked to publish in a session is what was planned,
in order (`Session.run_publications`).

A rule is **well-formed** if what it is about has the kind that it is published as
(`PolicyContent.IsWellFormed`).  The entity of a command is classified before anything else is done
with it, so that its rules are well-formed.  The target of a report is not: its rule is published as
one about a user whatever the target is, and is well-formed only if that is a user
(`Session.sent_well_formed`).
-/

namespace Moderation

variable {σ : Type} {ctx : Context σ} {w : World σ}

/-- A rule is well-formed as one about a kind: it is about an entity of that kind, which it names,
or hides behind its digest. -/
def PolicyContent.IsWellFormed (c : PolicyContent) (kind : EntityKind) : Prop :=
  (c.hashes = none ∧ Entity.classify c.entity = some kind) ∨
    (c.entity = "" ∧
      ∃ entity, Entity.classify entity = some kind ∧ c.sha256 = some (Entity.pseudonym entity))

namespace Publication

variable {entity reason : String} {recommendation : Recommendation} {reuse : Option String}
  {kind : EntityKind}

/-- A rule about an entity of a kind is well-formed as such. -/
theorem isWellFormed_rule (h : Entity.classify entity = some kind) (hashed : Bool) :
    (rule entity recommendation reason hashed reuse).content.IsWellFormed kind := by
  cases hashed with
  | false => exact .inl ⟨rfl, h⟩
  | true => exact .inr ⟨rfl, entity, h, rfl⟩

/-- A rule that names its entity is well-formed only if that has the kind. -/
theorem isWellFormed_rule_open :
    (rule entity recommendation reason false reuse).content.IsWellFormed kind ↔
      Entity.classify entity = some kind := by
  constructor
  · rintro (⟨-, hclass⟩ | ⟨-, _, -, hdigest⟩)
    · exact hclass
    · cases hdigest
  · exact fun h => isWellFormed_rule h false

end Publication

/-- **A rule that is planned is well-formed**, unless it is for a report whose target is no user. -/
theorem Mutation.isWellFormed_of_plan {m : Mutation} {store : Store} {p : Publication}
    (hm : m.Issued ctx) (hp : m.plan ctx.watched store = .ok p)
    (hrule : p.content.isTombstone = false) :
    p.content.IsWellFormed m.kind ↔
      ∀ reason, m.change = .reportBan reason → Entity.classify m.entity = some .user := by
  unfold plan decide at hp
  cases hc : m.change with
  | ban recommendation reason hashed =>
    simp only [hc] at hp
    obtain ⟨reuse, -, rfl⟩ := exists_of_map_ok hp
    have hclass := hm.classify_eq (by simp [hc])
    exact iff_of_true (Publication.isWellFormed_rule hclass hashed) (by simp)
  | reportBan reason =>
    simp only [hc] at hp
    obtain ⟨reuse, -, rfl⟩ := exists_of_map_ok hp
    rw [Publication.isWellFormed_rule_open, hm.kind_of_report hc]
    simp
  | unban reason =>
    simp only [hc] at hp
    obtain ⟨reuse, -, rfl⟩ := exists_of_map_ok hp
    have hclass := hm.classify_eq (by simp [hc])
    exact iff_of_true (Publication.isWellFormed_rule hclass false) (by simp)
  | remove kind =>
    simp only [hc] at hp
    obtain ⟨key, -, rfl⟩ := exists_of_map_ok hp
    cases hrule

/-! ## Nothing else is sent -/

/-- To take a rule asks nothing of the homeserver. -/
theorem Service.takePolicy_effects (r : PolicyRecord) (w : World σ) :
    (takePolicy r w).2.effects = w.effects := by
  unfold takePolicy
  split <;> rfl

/-- Nor does a change in membership. -/
theorem Service.takeMembership_effects (u : MembershipUpdate) (w : World σ) :
    (takeMembership u w).2.effects = w.effects := by
  unfold takeMembership
  split <;> rfl

namespace Session

/-- What a message plans to publish, if it asks for a mutation that is not refused. -/
def planned? (ctx : Context σ) (message : Message) (w : World σ) :
    Option (Mutation × Publication) :=
  (asked? ctx message w).bind fun m => (m.plan ctx.watched w.store).toOption.map fun p => (m, p)

/-- What is sent to the lists in a session. -/
def sent (ctx : Context σ) : List Message → World σ → List (Mutation × Publication)
  | [], _ => []
  | message :: messages, w =>
    (planned? ctx message w).toList ++ sent ctx messages (take ctx message w).2

/-- **A message publishes what it plans**, and nothing else. -/
theorem take_publications (message : Message) (w : World σ) :
    (take ctx message w).2.publications =
      w.publications ++ (planned? ctx message w).toList.map fun x => x.1.effect x.2 := by
  by_cases hreq : message.isRequest = true
  · cases exists_course ctx hreq w with
    | unasked hasked hstill => simp [planned?, hasked, hstill.publications]
    | refused hasked hplan _ hstill =>
      simp [planned?, hasked, hplan, hstill.publications, Except.toOption]
    | unpublished hasked hplan _ _ hpublications | done _ hasked hplan _ _ hpublications =>
      simp [planned?, hasked, hplan, hpublications, Except.toOption]
  · cases message with
    | policy r =>
      have hsame : (take ctx (.policy r) w).2.publications = w.publications :=
        congrArg (List.filter Effect.isPublication) (Service.takePolicy_effects r w)
      simp [planned?, asked?, hsame]
    | membership u =>
      have hsame : (take ctx (.membership u) w).2.publications = w.publications :=
        congrArg (List.filter Effect.isPublication) (Service.takeMembership_effects u w)
      simp [planned?, asked?, hsame]
    | command c => exact absurd rfl hreq
    | report r => exact absurd rfl hreq

/-- **A session publishes what was planned in it**, in order. -/
theorem run_publications (messages : List Message) (w : World σ) :
    (run ctx messages w).2.publications =
      w.publications ++ (sent ctx messages w).map fun x => x.1.effect x.2 := by
  induction messages generalizing w with
  | nil => exact (List.append_nil _).symm
  | cons message messages ih =>
    rw [run_cons]
    dsimp only
    rw [ih, take_publications, sent, List.map_append, List.append_assoc]

theorem exists_plan_of_mem_sent {messages : List Message} {x : Mutation × Publication}
    (hx : x ∈ sent ctx messages w) :
    x.1.Issued ctx ∧ ∃ store, x.1.plan ctx.watched store = .ok x.2 := by
  induction messages generalizing w with
  | nil => cases hx
  | cons message messages ih =>
    rcases List.mem_append.1 hx with hx | hx
    · obtain ⟨m, hasked, hplan⟩ := Option.bind_eq_some_iff.1 (Option.mem_toList.1 hx)
      obtain ⟨p, hp, rfl⟩ := Option.map_eq_some_iff.1 hplan
      exact ⟨issued_of_asked? hasked, w.store, toOption_eq_some.1 hp⟩
    · exact ih hx

/-- **What is sent is well-formed, but for what reports send.**  Whatever messages are taken from
whatever world, and whatever the homeserver answers, it is asked to publish what was planned, in
order; and each rule among that is well-formed as one about the kind that it is published as, except
exactly for the bans that reports ask for of a target that is no user. -/
theorem sent_well_formed (ctx : Context σ) (messages : List Message) (w : World σ) :
    (run ctx messages w).2.publications =
        w.publications ++ (sent ctx messages w).map (fun x => x.1.effect x.2) ∧
      ∀ x ∈ sent ctx messages w, x.2.content.isTombstone = false →
        (x.2.content.IsWellFormed x.1.kind ↔
          ∀ reason, x.1.change = .reportBan reason →
            Entity.classify x.1.entity = some .user) := by
  refine ⟨run_publications messages w, fun x hx hrule => ?_⟩
  obtain ⟨hissued, store, hplan⟩ := exists_plan_of_mem_sent hx
  exact Mutation.isWellFormed_of_plan hissued hplan hrule

/-- An administrator reports a text that names no user, and it is published in a rule about a
user. -/
theorem report_bans_nobody :
    let report : Report :=
      { reporter := "@admin:example.org", targetUser := some "nobody", reason := "/ban bans spam" }
    let content : PolicyContent :=
      { entity := "nobody", reason := "spam", recommendation := some .ban }
    (run Context.small [.report report] World.small).2.publications =
        [.publish "!list:example.org" .user (derivedStateKey "nobody" (some .ban)) content] ∧
      ¬content.IsWellFormed .user := by
  intro report content
  refine ⟨by decide +kernel, ?_⟩
  rintro (⟨-, hclass⟩ | ⟨hempty, -⟩)
  · have hnone : Entity.classify "nobody" = none := by decide
    rw [hnone] at hclass
    cases hclass
  · exact absurd hempty (by decide)

end Session
end Moderation

import Moderation.Proofs.Entity
import Moderation.Proofs.Moderator.Agreement
import Moderation.Proofs.Moderator.Sent
/-!
# Where a hidden entity is named

A command can ban an entity without naming it: its rule holds the digest of the entity instead.  If
that is all that commands do about an entity, apart from removing its rules, then nothing that is
published names it, and where it is concerned only its digest is published, or a tombstone.

The audit log is another matter.  An entry is about a publication that was tried or about a user
that was kicked (`AuditSubject`), and a session writes one for each (`Session.run_logged`).  The
entry about a hidden ban has the digest of the entity, but the entry about a removal names the
entity, be the rule that is removed hidden or not.  So an entity that is hidden otherwise is named
in the entries about its removals, and in those that say that it was kicked, and nowhere else
(`Session.hidden_but_for_removals`).
-/

namespace Moderation

variable {σ : Type} {ctx : Context σ} {w : World σ}

/-! ## A digest names no entity -/

namespace Entity

/-- **The pseudonym of an entity is no entity.** -/
theorem classify_pseudonym (entity : String) : classify (pseudonym entity) = none :=
  classify_eq_none_of_digest? (digest?_pseudonym entity)

theorem ne_pseudonym {entity : String} {kind : EntityKind} (h : classify entity = some kind)
    (other : String) : pseudonym other ≠ entity := by
  intro heq
  rw [← heq, classify_pseudonym] at h
  cases h

end Entity

/-! ## How a publication names an entity -/

/-- Whether a change takes a rule away. -/
def Change.isRemoval : Change → Bool
  | .remove _ => true
  | _ => false

/-- Whether a change publishes a rule that names its entity. -/
def Change.opens : Change → Bool
  | .ban _ _ hashed => !hashed
  | .reportBan _ => true
  | .unban _ => true
  | .remove _ => false

/-- Whether a command publishes a rule that names an entity. -/
def Command.opens (entity : String) (c : Command) : Bool :=
  c.change?.any fun (_, target, change) => target = entity && change.opens

/-- Whether a command message publishes a rule that names an entity. -/
def CommandMessage.opens (entity : String) (c : CommandMessage) : Bool :=
  match Command.parse c.body with
  | .ok (some command) => command.opens entity
  | _ => false

theorem Commands.opens_of_asked? {message : CommandMessage} {m : Mutation}
    (h : asked? ctx message = some m) : message.opens m.entity = m.change.opens := by
  obtain ⟨-, command, shortcode, entity, change, hparse, hchange, hm⟩ := asked?_eq_some.1 h
  obtain ⟨list, kind, -, -, rfl⟩ := mutation_eq_ok.1 hm
  simp [CommandMessage.opens, hparse, Command.opens, hchange]

/-- The ways in which a publication, and the audit entry about it, name the entity of a mutation. -/
inductive Mutation.Names (m : Mutation) (p : Publication) : Prop
  | openly (hopens : m.change.opens = true) (hcontent : p.content.entity = m.entity)
      (hsubject : p.subject m.entity = m.entity)
  | hidden (hopens : m.change.opens = false) (hremoval : m.change.isRemoval = false)
      (hcontent : p.content.entity = "")
      (hhashes : p.content.hashes = some ⟨some (Entity.pseudonym m.entity)⟩)
      (hsubject : p.subject m.entity = Entity.pseudonym m.entity)
  /-- The tombstone of a removal has no digest, and so the entry about it has the name. -/
  | removal (hremoval : m.change.isRemoval = true) (hcontent : p.content = .tombstone)
      (hsubject : p.subject m.entity = m.entity)

theorem Mutation.names_of_plan {m : Mutation} {store : Store} {p : Publication}
    (h : m.plan ctx.watched store = .ok p) : m.Names p := by
  unfold plan decide at h
  match hc : m.change with
  | .ban recommendation reason hashed =>
    simp only [hc] at h
    obtain ⟨reuse, -, rfl⟩ := exists_of_map_ok h
    cases hashed with
    | false => exact .openly (by rw [hc]; rfl) rfl rfl
    | true => exact .hidden (by rw [hc]; rfl) (by rw [hc]; rfl) rfl rfl rfl
  | .reportBan reason | .unban reason =>
    simp only [hc] at h
    obtain ⟨reuse, -, rfl⟩ := exists_of_map_ok h
    exact .openly (by rw [hc]; rfl) rfl rfl
  | .remove kind =>
    simp only [hc] at h
    obtain ⟨key, -, rfl⟩ := exists_of_map_ok h
    exact .removal (by rw [hc]; rfl) rfl rfl

/-! ## What the audit log is about -/

/-- What an audit entry is about: a publication that was tried, or a user that was kicked. -/
inductive AuditSubject where
  | mutation (m : Mutation) (p : Publication)
  | kicked (user : String)

namespace AuditSubject

/-- The entity that stands in the entry. -/
def name : AuditSubject → String
  | .mutation m p => p.subject m.entity
  | .kicked user => user

/-- Whom or what the entry is about. -/
def entity : AuditSubject → String
  | .mutation m _ => m.entity
  | .kicked user => user

/-- Whether the entry is about a removal or a kick. -/
def isRemovalOrKick : AuditSubject → Bool
  | .mutation m _ => m.change.isRemoval
  | .kicked _ => true

end AuditSubject

/-- The audit log of a world has gained one entry for each of some subjects, in order. -/
def World.Logged (subjects : List AuditSubject) (w w' : World σ) : Prop :=
  ∃ entries : List AuditEntry, w'.audit = entries.foldl AuditLog.append w.audit ∧
    entries.map (·.entity) = subjects.map AuditSubject.name

/-- The entries about users that were kicked name them. -/
theorem Deed.entities_of_told {kicks : List KickOutcome} {entries : List AuditEntry}
    (h : List.Forall₂ Told (kicks.map .kicked) entries) :
    entries.map (·.entity) = kicks.map (·.user) := by
  rw [List.forall₂_map_left_iff] at h
  induction h with
  | nil => rfl
  | cons hfirst _ ih =>
    obtain ⟨-, huser, -⟩ := hfirst
    rw [List.map_cons, List.map_cons, huser, ih]

namespace World

variable {subjects after : List AuditSubject} {w w' w'' : World σ}

theorem Logged.refl (w : World σ) : Logged [] w w := ⟨[], rfl, rfl⟩

theorem Logged.trans (h : Logged subjects w w') (h' : Logged after w' w'') :
    Logged (subjects ++ after) w w'' := by
  obtain ⟨entries, hw', hnames⟩ := h
  obtain ⟨entries', hw'', hnames'⟩ := h'
  refine ⟨entries ++ entries', ?_, ?_⟩
  · rw [hw'', hw', List.foldl_append]
  · rw [List.map_append, List.map_append, hnames, hnames']

/-- Where nothing was done, nothing was written. -/
theorem Went.audit_eq (h : Went ctx [] w w') : w'.audit = w.audit := by
  obtain ⟨entries, haudit, htold⟩ := h.audit
  cases htold
  exact haudit

/-- Where users were kicked, the entries are about them. -/
theorem Went.logged_of_kicks {kicks : List KickOutcome} (h : Went ctx (kicks.map .kicked) w w') :
    Logged (kicks.map fun o => .kicked o.user) w w' := by
  obtain ⟨entries, haudit, htold⟩ := h.audit
  have hlogged : (kicks.map Deed.kicked).filter Deed.isLogged = kicks.map Deed.kicked :=
    List.filter_eq_self.2 (by simp [Deed.isLogged])
  rw [hlogged] at htold
  refine ⟨entries, haudit, ?_⟩
  rw [Deed.entities_of_told htold, List.map_map]
  rfl

end World

/-- Where a homeserver is asked to publish nothing, no publication is tried. -/
theorem Homeserver.exchange_untried (h : Homeserver σ) {effects : List Effect}
    (hnone : effects.filter Effect.isPublication = []) (s : σ) :
    (h.exchange effects s).1.filterMap Deed.ofCall? = [] := by
  induction effects generalizing s with
  | nil => rfl
  | cons effect effects ih =>
    obtain ⟨heffect, hrest⟩ : effect.isPublication = false ∧
        effects.filter Effect.isPublication = [] := by
      cases hp : effect.isPublication <;> simp [hp] at hnone ⊢
      exact hnone
    have hcall (reply : Reply) : Deed.ofCall? (effect, reply) = none := by
      cases effect with
      | publish => cases heffect
      | _ => rfl
    have hcons : (h.exchange (effect :: effects) s).1 =
        (effect, (h.ask effect s).1) :: (h.exchange effects (h.ask effect s).2).1 := rfl
    rw [hcons, List.filterMap_cons, hcall, ih hrest]

namespace Commands

variable {message : CommandMessage}

/-- A command message that asks for no mutation is written about if it kicks users, one by one. -/
theorem handle_logged_of_unasked (h : asked? ctx message = none) (w : World σ) :
    w.Logged ((kicks ctx message w).map fun o => .kicked o.user) (handle ctx message w).2 := by
  obtain ⟨deeds, htried, hwent⟩ := handle_went message w
  have hstill : w.Still (handle ctx message w).2 :=
    handle_keeps (World.still_keeps w) h w (.refl w)
  have hnone : w.tried ctx (handle ctx message w).2 = [] := by
    obtain ⟨asked, heffects, -⟩ := hwent.calls
    have hpublications := hstill.publications
    unfold World.publications at hpublications
    rw [heffects, List.filter_append, List.append_right_eq_self] at hpublications
    unfold World.tried
    rw [heffects, List.drop_left]
    exact ctx.homeserver.exchange_untried hpublications w.server
  have hkicks := hwent.of_tried htried
  rw [hnone, List.nil_append] at hkicks
  exact hkicks.logged_of_kicks

theorem kicks_of_asked? {m : Mutation} (h : asked? ctx message = some m) (w : World σ) :
    kicks ctx message w = [] := by
  obtain ⟨hgate, command, shortcode, entity, change, hparse, hchange, -⟩ := asked?_eq_some.1 h
  simp only [kicks, hgate, hparse]
  cases command with
  | kick => cases hchange
  | _ => rfl

/-- A command message that asks for a mutation is written about if the mutation goes ahead. -/
theorem handle_logged_of_asked {m : Mutation} (h : asked? ctx message = some m) (w : World σ) :
    w.Logged ((m.plan ctx.watched w.store).toOption.toList.map (.mutation m))
      (handle ctx message w).2 := by
  rw [handle_of_asked? h]
  unfold World.Logged
  rw [(acknowledge_went message _ _).audit_eq]
  cases hplan : m.plan ctx.watched w.store with
  | error conflict =>
    rw [Mutation.run_refused hplan]
    exact ⟨[], rfl, rfl⟩
  | ok p =>
    rw [Mutation.run_planned hplan]
    exact ⟨[m.entry p message.sender (m.answer ctx p w) (ctx.moment w.ticks)], rfl, rfl⟩

end Commands

namespace Session

/-- What the audit log is about after a command message: what it plans to publish, and the users it
kicks. -/
def subjectsOf (ctx : Context σ) (c : CommandMessage) (w : World σ) : List AuditSubject :=
  ((planned? ctx (.command c) w).toList.map fun x => .mutation x.1 x.2) ++
    (Commands.kicks ctx c w).map fun o => .kicked o.user

/-- What the audit log is about after some command messages. -/
def subjects (ctx : Context σ) : List CommandMessage → World σ → List AuditSubject
  | [], _ => []
  | c :: commands, w => subjectsOf ctx c w ++ subjects ctx commands (take ctx (.command c) w).2

/-- A command message is written about once for what it publishes and once for each user it
kicks. -/
theorem take_logged (c : CommandMessage) (w : World σ) :
    w.Logged (subjectsOf ctx c w) (take ctx (.command c) w).2 := by
  have hcommand : asked? ctx (.command c) w = Commands.asked? ctx c := rfl
  unfold subjectsOf planned?
  rw [hcommand]
  cases hasked : Commands.asked? ctx c with
  | none => exact Commands.handle_logged_of_unasked hasked w
  | some m =>
    have hlogged := Commands.handle_logged_of_asked hasked w
    rw [Commands.kicks_of_asked? hasked, Option.bind_some, Option.toList_map, List.map_map,
      List.map_nil, List.append_nil]
    exact hlogged

/-- **The audit log has one entry for each publication that was tried and for each user that was
kicked**, and no other, when only commands are taken. -/
theorem run_logged (commands : List CommandMessage) (w : World σ) :
    w.Logged (subjects ctx commands w) (run ctx (commands.map .command) w).2 := by
  induction commands generalizing w with
  | nil => exact .refl w
  | cons c commands ih =>
    rw [List.map_cons, run_cons]
    exact (take_logged c w).trans (ih _)

theorem mutation_mem_subjects {m : Mutation} {p : Publication} {commands : List CommandMessage}
    (h : .mutation m p ∈ subjects ctx commands w) :
    (m, p) ∈ sent ctx (commands.map .command) w := by
  induction commands generalizing w with
  | nil => cases h
  | cons c commands ih =>
    rcases List.mem_append.1 h with h | h
    · rcases List.mem_append.1 h with h | h
      · obtain ⟨x, hx, heq⟩ := List.mem_map.1 h
        cases heq
        exact List.mem_append_left _ hx
      · obtain ⟨o, -, heq⟩ := List.mem_map.1 h
        cases heq
    · exact List.mem_append_right _ (ih h)

/-- What is sent when only commands are taken is what some command has asked for. -/
theorem exists_asked_of_mem_sent {x : Mutation × Publication} {commands : List CommandMessage}
    (h : x ∈ sent ctx (commands.map .command) w) :
    ∃ c ∈ commands, Commands.asked? ctx c = some x.1 := by
  induction commands generalizing w with
  | nil => cases h
  | cons c commands ih =>
    rcases List.mem_append.1 h with h | h
    · obtain ⟨m, hasked, hplan⟩ := Option.bind_eq_some_iff.1 (Option.mem_toList.1 h)
      obtain ⟨p, -, rfl⟩ := Option.map_eq_some_iff.1 hplan
      exact ⟨c, List.mem_cons_self, hasked⟩
    · obtain ⟨c', hmem, hasked⟩ := ih h
      exact ⟨c', List.mem_cons_of_mem c hmem, hasked⟩

/-! ## What is named -/

section
variable {entity : String} {kind : EntityKind} (hclass : Entity.classify entity = some kind)
  {commands : List CommandMessage} (hnamed : ∀ c ∈ commands, c.opens entity = false)
include hclass hnamed

omit hclass in
/-- The mutations of an entity that no command opens do not open it. -/
theorem opens_of_mem_sent {x : Mutation × Publication}
    (hx : x ∈ sent ctx (commands.map .command) w) (hentity : x.1.entity = entity) :
    x.1.change.opens = false := by
  obtain ⟨c, hc, hasked⟩ := exists_asked_of_mem_sent hx
  rw [← Commands.opens_of_asked? hasked, hentity]
  exact hnamed c hc

/-- What is published about an entity that no command opens does not name it. -/
theorem content_of_mem_sent {x : Mutation × Publication}
    (hx : x ∈ sent ctx (commands.map .command) w) :
    x.2.content.entity ≠ entity ∧
      (x.1.entity = entity → x.2.content = .tombstone ∨ x.2.content.entity = "" ∧
        x.2.content.hashes = some ⟨some (Entity.pseudonym entity)⟩) := by
  obtain ⟨-, store, hplan⟩ := exists_plan_of_mem_sent hx
  have hempty : "" ≠ entity := (Entity.ne_empty_of_classify hclass).symm
  cases Mutation.names_of_plan hplan with
  | openly hopens hcontent _ =>
    have hother : x.1.entity ≠ entity := fun hentity => by
      rw [opens_of_mem_sent hnamed hx hentity] at hopens
      cases hopens
    exact ⟨hcontent ▸ hother, fun hentity => absurd hentity hother⟩
  | hidden _ _ hcontent hhashes _ =>
    exact ⟨hcontent ▸ hempty, fun hentity => .inr ⟨hcontent, hentity ▸ hhashes⟩⟩
  | removal _ hcontent _ => exact ⟨hcontent ▸ hempty, fun _ => .inl hcontent⟩

/-- The entries about an entity that no command opens name it if they are about a removal or a
kick, and otherwise have its digest. -/
theorem name_of_mem_subjects {subject : AuditSubject} (hs : subject ∈ subjects ctx commands w) :
    (subject.name = entity ↔ subject.entity = entity ∧ subject.isRemovalOrKick = true) ∧
      (subject.entity = entity → subject.isRemovalOrKick = false →
        subject.name = Entity.pseudonym entity) := by
  cases subject with
  | kicked user => simp [AuditSubject.name, AuditSubject.entity, AuditSubject.isRemovalOrKick]
  | mutation m p =>
    have hsent := mutation_mem_subjects hs
    obtain ⟨-, store, hplan⟩ := exists_plan_of_mem_sent hsent
    simp only [AuditSubject.name, AuditSubject.entity, AuditSubject.isRemovalOrKick]
    cases Mutation.names_of_plan hplan with
    | openly hopens _ hsubject =>
      have hother : m.entity ≠ entity := fun hentity => by
        rw [opens_of_mem_sent hnamed hsent hentity] at hopens
        cases hopens
      simp [hsubject, hother]
    | hidden _ hremoval _ _ hsubject =>
      have hother := Entity.ne_pseudonym hclass m.entity
      simp only [hsubject, hremoval, hother, false_iff]
      exact ⟨by simp, fun hentity _ => by rw [hentity]⟩
    | removal hremoval _ hsubject => simp [hsubject, hremoval]

end

/-- **An entity that no command names in a rule is named in audit entries about its removals and
about kicks, and nowhere else.**  Whatever the homeserver answers, what is published does not name
it; where it is concerned, it is a tombstone or has its digest.  The audit log has one entry for
each publication that was tried and each user that was kicked, and names the entity exactly in those
about a removal of its rules and those that say that it was kicked; the others about it have its
digest. -/
theorem hidden_but_for_removals (ctx : Context σ) {entity : String} {kind : EntityKind}
    (hclass : Entity.classify entity = some kind) {commands : List CommandMessage}
    (hnamed : ∀ c ∈ commands, c.opens entity = false) (w : World σ) :
    let messages : List Message := commands.map .command
    let w' := (run ctx messages w).2
    (w'.publications = w.publications ++ (sent ctx messages w).map (fun x => x.1.effect x.2) ∧
      ∀ x ∈ sent ctx messages w, x.2.content.entity ≠ entity ∧
        (x.1.entity = entity → x.2.content = .tombstone ∨ x.2.content.entity = "" ∧
          x.2.content.hashes = some ⟨some (Entity.pseudonym entity)⟩)) ∧
    w.Logged (subjects ctx commands w) w' ∧
      ∀ subject ∈ subjects ctx commands w,
        (subject.name = entity ↔ subject.entity = entity ∧ subject.isRemovalOrKick = true) ∧
        (subject.entity = entity → subject.isRemovalOrKick = false →
          subject.name = Entity.pseudonym entity) :=
  ⟨⟨run_publications _ w, fun _ hx => content_of_mem_sent hclass hnamed hx⟩,
    run_logged commands w, fun _ hs => name_of_mem_subjects hclass hnamed hs⟩

/-- A user is banned by its digest, and the ban is removed. -/
theorem hidden_but_for_removals_ban :
    let commands : List CommandMessage :=
      [.small "!ban --hash bans @a:b spam", .small "!remove-ban bans @a:b"]
    Entity.classify "@a:b" = some .user ∧ (∀ c ∈ commands, c.opens "@a:b" = false) ∧
      (∀ x ∈ sent Context.small (commands.map .command) World.small,
        x.2.content.entity ≠ "@a:b") ∧
      (subjects Context.small commands World.small).map (·.name = "@a:b") =
        (subjects Context.small commands World.small).map
          fun s => s.entity = "@a:b" ∧ s.isRemovalOrKick = true := by
  intro commands
  have hclass : Entity.classify "@a:b" = some .user := by decide
  have hnamed : ∀ c ∈ commands, c.opens "@a:b" = false := by decide +kernel
  obtain ⟨⟨-, hcontent⟩, -, hname⟩ :=
    hidden_but_for_removals Context.small hclass hnamed World.small
  refine ⟨hclass, hnamed, fun x hx => (hcontent x hx).1, List.map_congr_left fun s hs => ?_⟩
  exact propext (hname s hs).1

/-- The entry about that removal names the user, whose ban is only known by its digest. -/
theorem removal_names_hidden :
    let commands : List CommandMessage :=
      [.small "!ban --hash bans @a:b spam", .small "!remove-ban bans @a:b"]
    let w : World Unit := { World.small with audit := { file := .empty, table := some [] } }
    let w' := (run Context.small (commands.map .command) w).2
    (∀ c ∈ commands, c.opens "@a:b" = false) ∧
      w'.audit.table.map (·.map (·.entity)) = some [Entity.pseudonym "@a:b", "@a:b"] := by
  decide +kernel

end Session
end Moderation

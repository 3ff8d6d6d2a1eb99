import Moderation.Proofs.Moderator.Concurrency
import Moderation.Proofs.Moderator.Session
import Moderation.Proofs.Policy.Summary
/-!
# An unban stands until it is removed

Once an unban of an entity has been published it stays where it is, whatever is asked for
afterwards, until a removal of a rule about that entity in that list completes; and as long as it
stands nobody can ban the entity in any list that is watched (`Session.unban_stands`).

A session that begins with a store that holds nothing keeps its records tidy (`Session.Sound.run`).
A record gives way only to one under its key, and the key says which entity a record is of.  So
nothing about another entity takes the place of the unban; and what is about this entity, in this
list and of this kind, is refused because the unban is found.
-/

namespace Moderation

variable {σ : Type} {ctx : Context σ}

/-! ## What a standing unban blocks -/

theorem exists_deciding_unban {found : List PolicyRecord} {u : PolicyRecord} (hu : u ∈ found)
    (hr : u.recommendation = some .unban) :
    ∃ r, (PolicySummary.ofRecords found).deciding = some r ∧ r.recommendation = some .unban := by
  cases hfind : found.find? PolicySummary.recommendsUnban with
  | none =>
    have hnot := List.find?_eq_none.1 hfind u hu
    simp [PolicySummary.recommendsUnban, hr] at hnot
  | some r =>
    refine ⟨r, ?_, by simpa [PolicySummary.recommendsUnban] using List.find?_some hfind⟩
    simp [PolicySummary.deciding_ofRecords, hfind]

theorem standingUnban_eq_some {found : List PolicyRecord} {r : PolicyRecord}
    (hd : (PolicySummary.ofRecords found).deciding = some r) (hr : r.recommendation = some .unban) :
    Decision.standingUnban found = some r := by
  simp [Decision.standingUnban, PolicySummary.isUnban, PolicySummary.recommendation, hd, hr]

/-- A ban by a command is refused if it finds an unban. -/
theorem Decision.ban_of_unban {found : List PolicyRecord} {u : PolicyRecord} (hu : u ∈ found)
    (hr : u.recommendation = some .unban) (list entity : String) :
    ∃ why, ban found list entity = .error (.unbanRecommended entity why) := by
  obtain ⟨r, hd, hr⟩ := exists_deciding_unban hu hr
  exact ⟨r.content.reason, by rw [ban, standingUnban_eq_some hd hr]⟩

/-- A ban by a report is refused if it finds an unban. -/
theorem Decision.reportBan_of_unban {found : List PolicyRecord} {u : PolicyRecord} (hu : u ∈ found)
    (hr : u.recommendation = some .unban) (list entity : String) :
    ∃ why, reportBan found list entity = .error (.unbanRecommended entity why) := by
  obtain ⟨r, hd, hr⟩ := exists_deciding_unban hu hr
  refine ⟨r.content.reason, ?_⟩
  simp [reportBan, reportConflict, hd, PolicySummary.isUnban, PolicySummary.recommendation, hr]

/-- A record of a watched list unbans an entity, which it names. -/
structure PolicyRecord.Unbans (ctx : Context σ) (u : PolicyRecord) (kind : EntityKind)
    (entity : String) : Prop where
  watched : u.listRoom ∈ ctx.watched
  kind_eq : u.kind = kind
  named : u.content.entity = entity
  ne_empty : entity ≠ ""
  unban : u.content.recommendation = some .unban

section
variable {u : PolicyRecord} {kind : EntityKind} {entity : String} (h : u.Unbans ctx kind entity)
  {store : Store}
  {records : List PolicyRecord} (hs : store.records? = some records) (hu : u ∈ records)
include h hs hu

/-- An unban that stands is found, exactly or by a pattern. -/
theorem PolicyRecord.Unbans.mem_find (mode : MatchMode) :
    u ∈ store.find { mode, lists := some ctx.watched, kind, value := entity } := by
  rw [Store.find_eq_filter hs]
  refine List.mem_filter.2 ⟨hu, ?_⟩
  have hconcerns : u.content.concerns mode entity = true := by
    simp [PolicyContent.concerns, PolicyContent.isTombstone, h.unban, h.named, h.ne_empty]
  simp [PolicyQuery.accepts, h.kind_eq, h.watched, hconcerns]

theorem PolicyRecord.Unbans.exists_deciding (mode : MatchMode) :
    ∃ r, (PolicySummary.ofRecords
        (store.find { mode, lists := some ctx.watched, kind, value := entity })).deciding = some r ∧
      r.recommendation = some .unban :=
  exists_deciding_unban (h.mem_find hs hu mode) h.unban

theorem PolicyRecord.Unbans.plan_ban {m : Mutation} {recommendation : Recommendation}
    {reason : String} {hashed : Bool}
    (hm : m.change = .ban recommendation reason hashed) (hk : m.kind = kind)
    (he : m.entity = entity) :
    ∃ why, m.plan ctx.watched store = .error (.unbanRecommended entity why) := by
  obtain ⟨why, hrefused⟩ :=
    Decision.ban_of_unban (h.mem_find hs hu .exact) h.unban m.list.roomId entity
  refine ⟨why, ?_⟩
  unfold Mutation.plan Mutation.decide Mutation.query
  simp only [hm, hk, he, hrefused]
  rfl

theorem PolicyRecord.Unbans.plan_unban {m : Mutation} {reason : String}
    (hm : m.change = .unban reason)
    (hk : m.kind = kind) (he : m.entity = entity) :
    ∃ why, m.plan ctx.watched store = .error (.alreadyUnbanned entity why) := by
  obtain ⟨r, hd, hr⟩ := h.exists_deciding hs hu .pattern
  refine ⟨r.content.reason, ?_⟩
  unfold Mutation.plan Mutation.decide Mutation.query
  simp only [hm, hk, he, Decision.unban, standingUnban_eq_some hd hr]
  rfl

theorem PolicyRecord.Unbans.plan_reportBan {m : Mutation} {reason : String}
    (hm : m.change = .reportBan reason)
    (hk : kind = .user) (he : m.entity = entity) :
    ∃ why, m.plan ctx.watched store = .error (.unbanRecommended entity why) := by
  subst hk
  obtain ⟨why, hrefused⟩ :=
    Decision.reportBan_of_unban (h.mem_find hs hu .pattern) h.unban m.list.roomId entity
  refine ⟨why, ?_⟩
  unfold Mutation.plan Mutation.decide Mutation.query
  simp only [hm, he, hrefused]
  rfl

end

/-! ## Sessions that keep records tidy -/

namespace Session

variable {message : Message} {w : World σ} {texts : List String} {records : List PolicyRecord}

/-- The records of the store are tidy. -/
structure Sound (texts : List String) (records : List PolicyRecord) (w : World σ) : Prop where
  holds : w.store.records? = some records
  tidy : Tidy texts records

/-- What a message does to the records. -/
inductive Recorded (ctx : Context σ) (message : Message) (w : World σ)
    (records : List PolicyRecord) :
    List PolicyRecord → Prop
  | nothing : Recorded ctx message w records records
  | mutation {m : Mutation} {p : Publication} (timestamp : Int64)
    (hm : asked? ctx message w = some m)
      (hplan : m.plan ctx.watched w.store = .ok p) (hfits : m.Fits records p)
      (hdone : ∀ c, message = .command c → (take ctx message w).1 = .status .completed) :
    Recorded ctx message w records
      (publishRecord (m.record p ctx.settings.botUser timestamp) records)

/-- **A message keeps the records tidy.** -/
theorem Sound.take (hcf : CollisionFree (texts.flatMap hashedTexts)) (h : Sound texts records w)
    (hreq : message.isRequest = true)
    (htexts : ∀ m, asked? ctx message w = some m → m.entity ∈ texts) :
    ∃ records', Sound texts records' (Session.take ctx message w).2 ∧
      Recorded ctx message w records records' := by
  cases exists_course ctx hreq w with
  | unasked _ hstill | refused _ _ _ hstill =>
    exact ⟨records, ⟨hstill.store ▸ h.holds, h.tidy⟩, .nothing⟩
  | unpublished _ _ _ hstore => exact ⟨records, ⟨hstore ▸ h.holds, h.tidy⟩, .nothing⟩
  | done timestamp hm hplan hdone hstore =>
    have hmem := htexts _ hm
    have hfits := Mutation.fits_of_plan hcf h.holds h.tidy hmem (issued_of_asked? hm) hplan
    refine ⟨_, ⟨?_, hfits.tidy hcf h.tidy hmem _ timestamp⟩,
      .mutation timestamp hm hplan hfits ?_⟩
    · rw [hstore]
      exact Mutation.records?_recordIn h.holds h.tidy.keyed _ _ _ _
    · rintro c rfl
      exact congrArg Outcome.status (Outcome.completed_of_isDone hdone)

/-- **A session keeps the records tidy.** -/
theorem Sound.run (hcf : CollisionFree (texts.flatMap hashedTexts)) {messages : List Message}
    (h : Sound texts records w)
    (hreq : ∀ message ∈ messages, message.isRequest = true)
    (htexts : ∀ e ∈ entities ctx messages w, e ∈ texts) :
    ∃ records', Sound texts records' (Session.run ctx messages w).2 := by
  induction messages generalizing w records with
  | nil => exact ⟨records, h⟩
  | cons message messages ih =>
    have hfirst : ∀ m, asked? ctx message w = some m → m.entity ∈ texts := fun m hm =>
      htexts _ (mem_entities_of_asked? hm messages)
    obtain ⟨records', h', -⟩ := h.take hcf (hreq message List.mem_cons_self) hfirst
    have hrest : ∀ e ∈ entities ctx messages (Session.take ctx message w).2, e ∈ texts :=
      fun e he =>
      htexts e (List.mem_append_right _ he)
    rw [run_cons]
    exact ih h' (fun other hother => hreq other (List.mem_cons_of_mem _ hother)) hrest

end Session

/-! ## Nothing but a removal takes its place -/

/-- A message is a removal of a rule about an entity from a list. -/
def Message.Removes (ctx : Context σ) (listRoom entity : String) (message : Message) : Prop :=
  ∃ c kind shortcode list, message = .command c ∧
    Command.parse c.body = .ok (some (.remove kind shortcode entity)) ∧
      ctx.listNamed shortcode = some list ∧ list.roomId = listRoom

namespace Session

variable {message : Message} {w : World σ} {texts : List String}
  {records records' : List PolicyRecord}

theorem removes_of_asked? {m : Mutation} {kind : RemovalKind} (h : asked? ctx message w = some m)
    (hm : m.change = .remove kind) : message.Removes ctx m.list.roomId m.entity := by
  match message with
  | .command c =>
    obtain ⟨-, command, shortcode, entity, change, hparse, hchange, hmutation⟩ :=
      Commands.asked?_eq_some.1 h
    obtain ⟨list, k, hlist, -, rfl⟩ := Commands.mutation_eq_ok.1 hmutation
    refine ⟨c, kind, shortcode, list, rfl, ?_, hlist, rfl⟩
    subst hm
    cases command with
    | remove =>
      simp only [Command.change?, Option.some.injEq, Prod.mk.injEq, Change.remove.injEq] at hchange
      obtain ⟨rfl, rfl, rfl⟩ := hchange
      exact hparse
    | _ => simp [Command.change?] at hchange
  | .report r =>
    obtain ⟨shortcode, list, entity, reason, -, rfl⟩ := Reports.asked?_eq_some h
    cases hm

section
variable {u : PolicyRecord} {kind : EntityKind} {entity : String} (hu : u.Unbans ctx kind entity)
  (hof : u.IsOf entity) (hcf : CollisionFree (texts.flatMap hashedTexts)) (htext : entity ∈ texts)
include hu hof hcf htext

/-- **An unban outlasts a message** that is no removal of it, or a removal that fails. -/
theorem Recorded.mem (hr : Recorded ctx message w records records') (h : Sound texts records w)
    (hmem : u ∈ records) (htexts : ∀ m, asked? ctx message w = some m → m.entity ∈ texts)
    (hkept : message.Removes ctx u.listRoom entity → (take ctx message w).1 ≠ .status .completed) :
    u ∈ records' := by
  cases hr with
  | nothing => exact hmem
  | @mutation m p timestamp hm hplan hfits hdone =>
    refine (mem_publishRecord h.tidy.keyed).2 (.inl ⟨hmem, fun hkey => ?_⟩)
    simp only [PolicyRecord.key, Mutation.record, Prod.mk.injEq] at hkey
    obtain ⟨hlist, hkind, hstate⟩ := hkey
    -- A record under the key of the unban is of the same entity, so the mutation must have found
    -- the unban.
    obtain ⟨_, hown⟩ := hof.key
    obtain ⟨_, hnew⟩ := hfits.key
    have he : m.entity = entity :=
      (derivedStateKey_inj hcf (htexts m hm) htext (hnew.symm.trans (hstate.symm.trans hown))).1
    have hk : m.kind = kind := hkind.symm.trans hu.kind_eq
    cases hc : m.change with
    | ban =>
      obtain ⟨why, hrefused⟩ := hu.plan_ban h.holds hmem hc hk he
      rw [hrefused] at hplan
      cases hplan
    | unban =>
      obtain ⟨why, hrefused⟩ := hu.plan_unban h.holds hmem hc hk he
      rw [hrefused] at hplan
      cases hplan
    | reportBan =>
      have huser : kind = .user := hk.symm.trans ((issued_of_asked? hm).kind_of_report hc)
      obtain ⟨why, hrefused⟩ := hu.plan_reportBan h.holds hmem hc huser he
      rw [hrefused] at hplan
      cases hplan
    | remove =>
      have hremoves : message.Removes ctx u.listRoom entity := hlist ▸ he ▸ removes_of_asked? hm hc
      obtain ⟨c, _, _, _, hmessage, -⟩ := id hremoves
      exact hkept hremoves (hdone c hmessage)

/-- **An unban outlasts a session** in which no removal of it completes. -/
theorem Sound.run_mem {messages : List Message} (h : Sound texts records w) (hmem : u ∈ records)
    (hreq : ∀ message ∈ messages, message.isRequest = true)
    (htexts : ∀ e ∈ entities ctx messages w, e ∈ texts)
    (hkept : ∀ x ∈ messages.zip (Session.run ctx messages w).1, x.1.Removes ctx u.listRoom entity →
      x.2 ≠ .status .completed) :
    ∃ records', Sound texts records' (Session.run ctx messages w).2 ∧ u ∈ records' := by
  induction messages generalizing w records with
  | nil => exact ⟨records, h, hmem⟩
  | cons message messages ih =>
    have hfirst : ∀ m, asked? ctx message w = some m → m.entity ∈ texts := fun m hm =>
      htexts _ (mem_entities_of_asked? hm messages)
    rw [run_cons] at hkept ⊢
    obtain ⟨records', h', hrecorded⟩ := h.take hcf (hreq message List.mem_cons_self) hfirst
    have hmem' : u ∈ records' :=
      hrecorded.mem hu hof hcf htext h hmem hfirst (hkept (message, _) List.mem_cons_self)
    exact ih h' hmem' (fun other hother => hreq other (List.mem_cons_of_mem _ hother))
      (fun e he => htexts e (List.mem_append_right _ he))
      fun x hx => hkept x (List.mem_cons_of_mem _ hx)

end

/-! ## Once an entity has been unbanned -/

/-- Whoever bans an entity is told that an unban is recommended, and nothing is published: a command
shows a notice, and a report does not get beyond the question who its target is. -/
structure Blocked (ctx : Context σ) (entity : String) (w : World σ) : Prop where
  command : ∀ (c : CommandMessage) (takedown hashed : Bool) (shortcode reason : String),
    Commands.gateOf ctx c = .pass →
      Command.parse c.body = .ok (some (.ban takedown hashed shortcode entity reason)) →
      (ctx.listNamed shortcode).isSome = true →
    ∃ why, Commands.execute ctx c.sender (.ban takedown hashed shortcode entity reason) w =
        (.error (.conflict (.unbanRecommended entity why)), w) ∧
      Commands.handle ctx c w =
        (.failed, w.shown ctx (Conflict.unbanRecommended entity why).message)
  report : Entity.classify entity = some .user →
    ∀ (r : Report) (sender : Option String) (w₁ : World σ) (shortcode reason : String),
      ctx.isAdmin r.reporter = true → Reports.Located ctx r w sender (some entity) w₁ →
      ReportCommand.parse r.reason = .ok (some (.ban shortcode reason)) →
    ∃ why, Reports.handle ctx r w = (.error (.conflict (.unbanRecommended entity why)), w₁)

section
variable {u : PolicyRecord} {kind : EntityKind} {entity : String} (hu : u.Unbans ctx kind entity)
  (hs : w.store.records? = some records) (hmem : u ∈ records)
include hu hs hmem

theorem execute_ban (hclass : Entity.classify entity = some kind) {shortcode : String}
    (hl : (ctx.listNamed shortcode).isSome = true) (actor : String) (takedown hashed : Bool)
    (reason : String) :
    ∃ why, Commands.execute ctx actor (.ban takedown hashed shortcode entity reason) w =
      (.error (.conflict (.unbanRecommended entity why)), w) := by
  obtain ⟨list, hlist⟩ := Option.isSome_iff_exists.1 hl
  have hm : Commands.mutation ctx shortcode entity
      (.ban (if takedown then .takedown else .ban) reason hashed) =
      .ok ⟨list, kind, entity, .ban (if takedown then .takedown else .ban) reason hashed⟩ :=
    Commands.mutation_eq_ok.2 ⟨list, kind, hlist, hclass, rfl⟩
  obtain ⟨why, hrefused⟩ : ∃ why, Mutation.plan ⟨list, kind, entity, _⟩ ctx.watched w.store = _ :=
    hu.plan_ban hs hmem rfl rfl rfl
  refine ⟨why, ?_⟩
  rw [Commands.execute_of_change rfl, Commands.mutate_eq hm, Mutation.run_refused hrefused]
  rfl

theorem handle_report {r : Report} {sender : Option String} {w₁ : World σ}
    {shortcode reason : String}
    (huser : kind = .user) (hadmin : ctx.isAdmin r.reporter = true)
    (hl : Reports.Located ctx r w sender (some entity) w₁)
    (hparse : ReportCommand.parse r.reason = .ok (some (.ban shortcode reason))) :
    ∃ why, Reports.handle ctx r w = (.error (.conflict (.unbanRecommended entity why)), w₁) := by
  subst huser
  obtain ⟨d, hd, hr⟩ := hu.exists_deciding hs hmem .pattern
  obtain ⟨hfetch, htarget⟩ := hl.fetchSender_eq
  have hcommand : ReportCommand.isCommand r.reason = true := by
    by_contra hnot
    rw [ReportCommand.parse, if_neg hnot] at hparse
    cases hparse
  refine ⟨d.content.reason, ?_⟩
  unfold Reports.handle
  rw [Act.bind_apply, hfetch]
  simp only [htarget, hadmin, hcommand, Bool.and_self, if_true]
  unfold Reports.escalate
  rw [hparse]
  have hdeciding : Reports.deciding ctx entity w₁.store = some d := hl.store_eq ▸ hd
  exact (Reports.ban_of_deciding hdeciding r.reporter shortcode reason).trans (by rw [if_pos hr])

/-- **A standing unban blocks bans of its entity.** -/
theorem blocked_of_unbans (hclass : Entity.classify entity = some kind) : Blocked ctx entity w where
  command := by
    intro c takedown hashed shortcode reason hgate hparse hl
    obtain ⟨why, hexecute⟩ := execute_ban hu hs hmem hclass hl c.sender takedown hashed reason
    refine ⟨why, hexecute, ?_⟩
    rw [Commands.handle_of_pass hgate hparse, hexecute]
    rfl
  report := by
    intro huser r sender w₁ shortcode reason hadmin hl hparse
    exact handle_report hu hs hmem (Option.some.inj (hclass.symm.trans huser)) hadmin hl hparse

end

/-- A record is in a store. -/
def Stands (store : Store) (u : PolicyRecord) : Prop :=
  ∃ records, store.records? = some records ∧ u ∈ records

/-- What a command to unban an entity leaves in the store when it completes. -/
theorem exists_unban {c : CommandMessage} {shortcode entity reason : String} {list : WatchedList}
    (hcf : CollisionFree (texts.flatMap hashedTexts)) (h : Sound texts records w)
    (hparse : Command.parse c.body = .ok (some (.addUnban shortcode entity reason)))
    (hlist : ctx.listNamed shortcode = some list) (hdone : (Commands.handle ctx c w).1 = .completed)
    (htexts : ∀ m, asked? ctx (.command c) w = some m → m.entity ∈ texts) :
    ∃ u kind, u.Unbans ctx kind entity ∧ u.IsOf entity ∧ Entity.classify entity = some kind ∧
      entity ∈ texts ∧
      u.listRoom = list.roomId ∧ u.content = { entity, reason, recommendation := some .unban } ∧
        ∃ records', Sound texts records' (take ctx (.command c) w).2 ∧ u ∈ records' := by
  obtain ⟨m, hm, hasked⟩ := Commands.exists_asked? hparse rfl hdone
  obtain ⟨list', kind, hlist', hclass, rfl⟩ := Commands.mutation_eq_ok.1 hm
  obtain rfl : list = list' := Option.some.inj (hlist.symm.trans hlist')
  have htext : entity ∈ texts := htexts _ hasked
  have hissued := Commands.issued_of_asked? hasked
  have hisDone : (take ctx (.command c) w).1.isDone = true := by
    rw [take_command, hdone]
    rfl
  have hasked' : asked? ctx (.command c) w = some _ := hasked
  obtain ⟨p, timestamp, hplan, hstore, -⟩ := exists_done hasked' hisDone
  have hfits := Mutation.fits_of_plan hcf h.holds h.tidy htext hissued hplan
  obtain ⟨reuse, -, rfl⟩ := Mutation.exists_of_map_ok hplan
  have hne : entity ≠ "" := hissued.entity_ne_empty (by simp)
  refine ⟨_, kind, ⟨hissued.watched, rfl, rfl, hne, rfl⟩,
    hfits.isOf rfl ctx.settings.botUser timestamp, hclass, htext,
    rfl, rfl, _, ⟨?_, hfits.tidy hcf h.tidy htext ctx.settings.botUser timestamp⟩, ?_⟩
  · exact (congrArg Store.records? hstore).trans
      (Mutation.records?_recordIn h.holds h.tidy.keyed _ _ _ _)
  · exact (mem_publishRecord h.tidy.keyed).2 (.inr ⟨rfl, rfl⟩)

/-- **An unban stands until it is removed**: once a command to unban an entity has completed, in a
session that began with a store that holds nothing, its rule stays in the store unchanged, and bans
of the entity are blocked, for as long as no removal of a rule about the entity in that list
completes. -/
theorem unban_stands {before after : List Message} {c : CommandMessage}
    {shortcode entity reason : String}
    {list : WatchedList} (hempty : w.store.records? = some [])
    (hreq : ∀ message ∈ before ++ after, message.isRequest = true)
    (hparse : Command.parse c.body = .ok (some (.addUnban shortcode entity reason)))
    (hlist : ctx.listNamed shortcode = some list)
    (hdone : (Commands.handle ctx c (run ctx before w).2).1 = .completed)
    (hkept : ∀ x ∈ after.zip (run ctx after (take ctx (.command c) (run ctx before w).2).2).1,
      x.1.Removes ctx list.roomId entity → x.2 ≠ .status .completed)
    (hcf : CollisionFree ((entities ctx (before ++ .command c :: after) w).flatMap hashedTexts)) :
    ∃ u kind, Entity.classify entity = some kind ∧ u.kind = kind ∧ u.listRoom = list.roomId ∧
      u.content = { entity, reason, recommendation := some .unban } ∧
      Stands (take ctx (.command c) (run ctx before w).2).2.store u ∧
      Stands (run ctx after (take ctx (.command c) (run ctx before w).2).2).2.store u ∧
      Blocked ctx entity (run ctx after (take ctx (.command c) (run ctx before w).2).2).2 := by
  rw [entities_append, entities] at hcf
  -- One list of entities serves the whole session, so that a key means the same before and after
  -- the unban.
  obtain ⟨texts, htexts⟩ : ∃ texts, texts = entities ctx before w ++
      (((asked? ctx (.command c) (run ctx before w).2).map (·.entity)).toList ++
        entities ctx after (take ctx (.command c) (run ctx before w).2).2) := ⟨_, rfl⟩
  rw [← htexts] at hcf
  have hstart : Sound texts [] w := ⟨hempty, tidy_nil texts⟩
  obtain ⟨records₁, h₁⟩ := hstart.run hcf
    (fun message hm => hreq message (List.mem_append_left _ hm))
    (fun e he => by rw [htexts]; exact List.mem_append_left _ he)
  have hasked : ∀ m, asked? ctx (.command c) (run ctx before w).2 = some m → m.entity ∈ texts := by
    intro m hm
    simp [htexts, hm]
  obtain ⟨u, kind, hu, hof, hclass, htext, hroom, hcontent, records₂, h₂, hmem₂⟩ :=
    exists_unban hcf h₁ hparse hlist hdone hasked
  have hafter :
      ∀ e ∈ entities ctx after (take ctx (.command c) (run ctx before w).2).2, e ∈ texts := by
    intro e he
    rw [htexts]
    exact List.mem_append_right _ (List.mem_append_right _ he)
  obtain ⟨records₃, h₃, hmem₃⟩ := h₂.run_mem hu hof hcf htext hmem₂
    (fun message hm => hreq message (List.mem_append_right _ hm)) hafter (hroom ▸ hkept)
  exact ⟨u, kind, hclass, hu.kind_eq, hroom, hcontent, ⟨records₂, h₂.holds, hmem₂⟩,
    ⟨records₃, h₃.holds, hmem₃⟩,
    blocked_of_unbans hu h₃.holds hmem₃ hclass⟩

/-- A user is banned and then unbanned, and is not banned again. -/
theorem unban_stands_against_ban :
    let command (body : String) : CommandMessage :=
      { eventId := "$1", sender := "@admin:example.org", body, encrypted := true,
        trust := .verified }
    let start : World Unit :=
      { store := .memory {}, membership := {}, audit := { file := .empty }, server := () }
    let banned := (run Context.small [.command (command "!ban bans @a:b spam")] start).2
    let unbanned := (take Context.small (.command (command "!add-unban bans @a:b sorry")) banned).2
    let end_ := (run Context.small [.command (command "!ban bans @a:b spam")] unbanned).2
    ∃ u kind, Entity.classify "@a:b" = some kind ∧ u.kind = kind ∧
      u.listRoom = "!list:example.org" ∧
      u.content = { entity := "@a:b", reason := "sorry", recommendation := some .unban } ∧
      Stands unbanned.store u ∧ Stands end_.store u ∧ Blocked Context.small "@a:b" end_ := by
  intro command start banned unbanned end_
  have hparse : Command.parse "!ban bans @a:b spam" =
      .ok (some (.ban false false "bans" "@a:b" "spam")) := by
    decide +kernel
  have hentities : entities Context.small
      [.command (command "!ban bans @a:b spam"), .command (command "!add-unban bans @a:b sorry"),
        .command (command "!ban bans @a:b spam")] start = ["@a:b", "@a:b", "@a:b"] := by
    decide +kernel
  have hunban : Command.parse "!add-unban bans @a:b sorry" =
      .ok (some (.addUnban "bans" "@a:b" "sorry")) := by
    decide +kernel
  have hdone :
      (Commands.handle Context.small (command "!add-unban bans @a:b sorry") banned).1 =
        .completed := by
    decide +kernel
  refine unban_stands rfl ?_ hunban rfl hdone ?_ ?_
  · simp [Message.isRequest]
  · rintro ⟨message, outcome⟩ hx ⟨c, kind, shortcode, list, rfl, hremove, -⟩
    obtain ⟨hmem, -⟩ := List.of_mem_zip hx
    obtain rfl : c = command "!ban bans @a:b spam" := by simpa using hmem
    rw [hparse] at hremove
    cases hremove
  · rw [List.singleton_append, hentities]
    exact collisionFree_hashedTexts_user.mono (by simp)

end Session
end Moderation

import Moderation.Proofs.Moderator.Answered
/-!
# Those who may not do anything do not interfere

Some messages are **passive** (`Message.isPassive`): commands that the gate drops, that are no
commands, that are used wrongly or only look something up, and reports that are not from an
administrator or give no command.  To leave them out of a session changes nothing that lasts: not
what came of the other messages, nor what was done in rooms and lists, nor the store, the membership
or the audit log (`Session.passive_messages_do_not_interfere`).

Passive messages do ask things of the homeserver: they show notices and look for the sender of an
event.  A notice is an event too, so the homeserver may number later events otherwise.  All that is
supposed is that it answers the calls of the other messages alike with and without the passive ones
(`AnsweredAlike`), and what lasts is compared apart from the events that carry rules.

Two worlds are related while both sessions go on (`World.Alike`).  A message that is taken in both
keeps them so, because all it reads is alike in both (`Session.take_active`); and so does a passive
message that is taken in one of them only, whatever it is answered (`Session.take_passive`).
-/

namespace Moderation

variable {σ : Type} {ctx : Context σ} {moment' : Nat → Moment}

/-- Whether something that is asked of the homeserver changes a room or a list. -/
def Effect.isWrite : Effect → Bool
  | .publish _ _ _ _ => true
  | .kick _ _ _ => true
  | .join _ => true
  | .leave _ => true
  | .redact _ _ _ => true
  | _ => false

/-- What has been done in rooms and lists, in order. -/
def World.writes (w : World σ) : List Effect := w.effects.filter Effect.isWrite

/-- A message that changes nothing that lasts. -/
def Message.isPassive (ctx : Context σ) : Message → Bool
  | .command c =>
    match Commands.gateOf ctx c, Command.parse c.body with
    | .pass, .ok (some (.lookUp _)) => true
    | .pass, .ok (some _) => false
    | _, _ => true
  | .report r => !(ctx.isAdmin r.reporter && ReportCommand.isCommand r.reason)
  | _ => false

/-- What came of a message, but for the event that carries its rule. -/
def Outcome.eventless (o : Outcome) : Outcome := o.mapEvent fun _ => ""

/-- An entry but for the event that carries its rule. -/
def AuditEntry.eventless (e : AuditEntry) : AuditEntry := e.mapEvent fun _ => ""

namespace Session

/-- The messages that are not passive. -/
def active (ctx : Context σ) (messages : List Message) : List Message :=
  messages.filter fun message => !message.isPassive ctx

/-- Of what is listed for messages, that which is listed for those that are not passive. -/
def ofActive {α : Type} (ctx : Context σ) (messages : List Message) (xs : List α) : List α :=
  ((messages.zip xs).filter fun x => !x.1.isPassive ctx).map (·.2)

/-- The calls to the homeserver in a session, with their replies, message by message. -/
def transcript (ctx : Context σ) : List Message → World σ → List (List (Effect × Reply))
  | [], _ => []
  | message :: messages, w =>
    w.calls ctx (take ctx message w).2 :: transcript ctx messages (take ctx message w).2

variable {message : Message} {messages : List Message}

theorem active_cons_of_passive (h : message.isPassive ctx = true) :
    active ctx (message :: messages) = active ctx messages :=
  List.filter_cons_of_neg (by simp [h])

theorem active_cons (h : message.isPassive ctx = false) :
    active ctx (message :: messages) = message :: active ctx messages :=
  List.filter_cons_of_pos (by simp [h])

theorem ofActive_cons_of_passive {α : Type} {x : α} {xs : List α}
    (h : message.isPassive ctx = true) :
    ofActive ctx (message :: messages) (x :: xs) = ofActive ctx messages xs := by
  simp [ofActive, h]

theorem ofActive_cons {α : Type} {x : α} {xs : List α} (h : message.isPassive ctx = false) :
    ofActive ctx (message :: messages) (x :: xs) = x :: ofActive ctx messages xs := by
  simp [ofActive, h]

end Session

/-- Worlds of two sessions that began with one audit log are alike: they differ in times, in the
events that carry rules, in notices, and in the states of their homeservers. -/
structure World.Alike (log : AuditLog) (w v : World σ) : Prop where
  store : w.store.undated = v.store.undated
  membership : w.membership = v.membership
  writes : w.writes = v.writes
  audit : ∃ es fs : List AuditEntry, w.audit = es.foldl AuditLog.append log ∧
    v.audit = fs.foldl AuditLog.append log ∧
    es.map (·.undated.eventless) = fs.map (·.undated.eventless)

namespace World.Alike

variable {log : AuditLog} {w v : World σ}

/-- A session may begin with a homeserver in another state. -/
theorem start (w : World σ) (server : σ) : World.Alike w.audit w { w with server } where
  store := rfl
  membership := rfl
  writes := rfl
  audit := ⟨[], [], rfl, rfl, rfl⟩

/-- The same call in both worlds keeps them alike. -/
theorem asked (h : World.Alike log w v) (effect : Effect) (server server' : σ) :
    World.Alike log (w.asked effect server) (v.asked effect server') := by
  refine ⟨h.store, h.membership, ?_, h.audit⟩
  have hwrites := h.writes
  unfold World.writes at hwrites ⊢
  simp only [World.asked, List.filter_append, hwrites]

/-- A call in one of the worlds keeps them alike if it changes no room and no list. -/
theorem asked_left (h : World.Alike log w v) {effect : Effect} (he : effect.isWrite = false)
    (server : σ) : World.Alike log (w.asked effect server) v := by
  refine ⟨h.store, h.membership, ?_, h.audit⟩
  have hwrites := h.writes
  unfold World.writes at hwrites ⊢
  simp [World.asked, List.filter_append, he, hwrites]

/-- Entries that are alike keep worlds alike. -/
theorem append_audit (h : World.Alike log w v) {e f : AuditEntry}
    (hef : e.undated.eventless = f.undated.eventless) :
    ∃ es fs : List AuditEntry, w.audit.append e = es.foldl AuditLog.append log ∧
      v.audit.append f = fs.foldl AuditLog.append log ∧
        es.map (·.undated.eventless) = fs.map (·.undated.eventless) := by
  obtain ⟨es, fs, hw, hv, hmap⟩ := h.audit
  refine ⟨es ++ [e], fs ++ [f], ?_, ?_, ?_⟩
  · rw [List.foldl_append, ← hw]
    rfl
  · rw [List.foldl_append, ← hv]
    rfl
  · rw [List.map_append, List.map_append, hmap, List.map_singleton, List.map_singleton, hef]

theorem akin (log : AuditLog) : World.Akin (fun _ => "") (World.Alike (σ := σ) log) where
  membership _ _ h := h.membership
  store _ _ h := h.store
  logged _ _ h _ _ he _ _ := ⟨h.store, h.membership, h.writes, h.append_audit he⟩
  publish w v h r r' hr := by
    refine ⟨?_, h.membership, h.writes, h.audit⟩
    simp only [Store.undated_publish, h.store, hr]
  remember w v h user := by
    refine ⟨?_, h.membership, h.writes, h.audit⟩
    simp only [Store.undated_remember, h.store]

/-- **Worlds go on alike** as long as their calls are answered alike, at any times. -/
theorem carries (ctx : Context σ) (moment' : Nat → Moment) (log : AuditLog) :
    Act.Carries ctx moment' (fun _ => "") (.answered ctx (World.Alike log)) :=
  (akin log).answered_carries (fun _ _ h => h.asked) moment'

end World.Alike

/-! ## Messages that are taken in both sessions -/

open Act
variable {log : AuditLog}

namespace Session

theorem takeMembership_answered (u : MembershipUpdate) :
    (Coupling.answered ctx (World.Alike log)).Holds Eq (Service.takeMembership u)
      (Service.takeMembership u) := by
  refine .of_silent (silent_takeMembership u) (silent_takeMembership u) ?_
  unfold Service.takeMembership
  refine .ite (.pure _) (.bind ?_ fun _ => .pure _)
  intro w v h
  have hremember (users : List String) (s t : Store) (hst : s.undated = t.undated) :
      (users.foldl (fun store user => store.remember user) s).undated =
        (users.foldl (fun store user => store.remember user) t).undated := by
    induction users generalizing s t with
    | nil => exact hst
    | cons user users ih =>
      refine ih _ _ ?_
      rw [Store.undated_remember, Store.undated_remember, hst]
  exact ⟨rfl, hremember _ _ _ h.store, congrArg (Membership.apply · u) h.membership, h.writes,
    h.audit⟩

/-- **A message that is not passive** comes to the same in both sessions and keeps their worlds
alike, if its calls are answered alike. -/
theorem take_active {message : Message} (hpassive : message.isPassive ctx = false)
    {w v : World σ} (h : World.Alike log w v)
    (hanswers : AnsweredAlike (w.calls ctx (take ctx message w).2)
      (v.calls (ctx.timed moment') (take (ctx.timed moment') message v).2)) :
    (take ctx message w).1.eventless = (take (ctx.timed moment') message v).1.eventless ∧
      World.Alike log (take ctx message w).2 (take (ctx.timed moment') message v).2 := by
  have hrelated : Act.Answered ctx (World.Alike log)
      (fun outcome outcome' => outcome.eventless = outcome'.eventless) (take ctx message)
      (take (ctx.timed moment') message) := by
    refine take_related (World.Alike.carries ctx moment' log) ?_ fun u _ =>
      takeMembership_answered u
    -- Nothing is looked up by a message that is not passive.
    rintro c target rfl hparse
    unfold Message.isPassive at hpassive
    cases hgate : Commands.gateOf ctx c <;> simp [hgate, hparse] at hpassive
  obtain ⟨houtcome, hafter, -⟩ := hrelated.alike w v h hanswers
  exact ⟨houtcome, hafter⟩

/-! ## Messages that are taken in one of them only -/

variable {w v : World σ}

theorem shown_left (h : World.Alike log w v) (text : String) :
    World.Alike log (w.shown ctx text) v :=
  h.asked_left rfl _

theorem lookUp_left (target : String) (h : World.Alike log w v) :
    World.Alike log (Commands.lookUp ctx target w).2 v := by
  -- To look something up reads the world it is in, so it is run beside itself while the other
  -- session is held fixed.
  have hrelated : (Coupling.ofWorlds fun x y => x = y ∧ World.Alike log x v).Holds Eq
      (Commands.lookUp ctx target) (Commands.lookUp ctx target) := by
    refine Commands.lookUp_related_self (Coupling.ofWorlds_sees fun _ _ hx => hx.1) ?_ ?_ target
    · rintro text x _ ⟨rfl, hx⟩
      exact ⟨rfl, rfl, shown_left hx text⟩
    · rintro x _ ⟨rfl, hx⟩
      exact ⟨rfl, rfl, hx.store, hx.membership, hx.writes, hx.audit⟩
  exact hrelated.preserves w h

theorem handle_passive_command {c : CommandMessage}
    (hpassive : (Message.command c).isPassive ctx = true) (h : World.Alike log w v) :
    World.Alike log (Commands.handle ctx c w).2 v := by
  by_cases hgate : Commands.gateOf ctx c = .pass
  · match hparse : Command.parse c.body with
    | .error e =>
      rw [Commands.handle_of_usage hgate hparse]
      exact shown_left h _
    | .ok none =>
      rw [Commands.handle_of_ignored hgate hparse]
      exact h
    | .ok (some command) =>
      rw [Commands.handle_of_pass hgate hparse]
      cases command with
      | lookUp target =>
        have hlooked : World.Alike log (Commands.lookUp ctx target w).2 v := lookUp_left target h
        have hexecute : Commands.execute ctx c.sender (.lookUp target) w =
          Commands.lookUp ctx target w := rfl
        rw [hexecute]
        rcases Commands.lookUp_fst ctx target w with hresult | ⟨e, hresult⟩
        · rw [hresult]
          exact hlooked
        · rw [hresult]
          exact shown_left hlooked _
      | _ => simp [Message.isPassive, hgate, hparse] at hpassive
  · rw [Commands.handle_of_dropped hgate]
    exact h

theorem handle_passive_report {r : Report} (hpassive : (Message.report r).isPassive ctx = true)
    (h : World.Alike log w v) : World.Alike log (Reports.handle ctx r w).2 v := by
  obtain ⟨result, w', hcase⟩ := Reports.exists_handled ctx r w
  rw [hcase.handle_eq]
  cases hcase with
  | unfetched => exact shown_left (h.asked_left rfl _) _
  | shown hl _ =>
    cases hl with
    | named => exact shown_left h _
    | sent => exact shown_left (h.asked_left rfl _) _
  | escalated _ hadmin hcommand => simp [Message.isPassive, hadmin, hcommand] at hpassive

/-- **A passive message** keeps the worlds alike when it is taken in one of them only. -/
theorem take_passive {message : Message} (hpassive : message.isPassive ctx = true)
    (h : World.Alike log w v) : World.Alike log (take ctx message w).2 v := by
  match message with
  | .command c => exact handle_passive_command hpassive h
  | .report r => exact handle_passive_report hpassive h
  | .policy _ => cases hpassive
  | .membership _ => cases hpassive

/-! ## Two sessions -/

/-- **Two sessions, one of which leaves out the passive messages, go on alike**, if the calls of the
others are answered alike. -/
theorem run_alike (messages : List Message) (h : World.Alike log w v)
    (hanswers : ∀ x ∈ (ofActive ctx messages (transcript ctx messages w)).zip
      (transcript (ctx.timed moment') (active ctx messages) v), AnsweredAlike x.1 x.2) :
    (ofActive ctx messages (run ctx messages w).1).map Outcome.eventless =
        (run (ctx.timed moment') (active ctx messages) v).1.map Outcome.eventless ∧
      World.Alike log (run ctx messages w).2
        (run (ctx.timed moment') (active ctx messages) v).2 := by
  induction messages generalizing w v with
  | nil => exact ⟨rfl, h⟩
  | cons message messages ih =>
    rw [transcript] at hanswers
    rw [run_cons]
    cases hpassive : message.isPassive ctx with
    | true =>
      -- Only the first session takes the message, and what comes of it is not compared.
      rw [ofActive_cons_of_passive hpassive, active_cons_of_passive hpassive] at hanswers
      rw [ofActive_cons_of_passive hpassive, active_cons_of_passive hpassive]
      exact ih (take_passive hpassive h) hanswers
    | false =>
      rw [ofActive_cons hpassive, active_cons hpassive, transcript, List.zip_cons_cons,
        List.forall_mem_cons] at hanswers
      rw [ofActive_cons hpassive, active_cons hpassive, run_cons]
      obtain ⟨hresult, hafter⟩ := take_active hpassive h hanswers.1
      obtain ⟨houtcomes, halike⟩ := ih hafter hanswers.2
      refine ⟨?_, halike⟩
      rw [List.map_cons, List.map_cons, houtcomes, hresult]

/-- **Passive messages do not interfere.**  From any world, let one session take all messages, and
let another leave out the passive ones, with the homeserver in any state and at any times.  Where a
message that both take asks the same at the same place, let the replies say the same, but for the
events of rules.  Then the same comes of the messages that both take, but for these events; the same
is done in rooms and lists; and the same are the rules in the store apart from their times, the
users behind digests, the membership, and the entries that are written into the audit log apart from
their identifiers, times and events. -/
theorem passive_messages_do_not_interfere (moment' : Nat → Moment) (messages : List Message)
    (w : World σ) (server : σ)
    (hanswers : ∀ x ∈ (ofActive ctx messages (transcript ctx messages w)).zip
      (transcript (ctx.timed moment') (active ctx messages) { w with server }),
      AnsweredAlike x.1 x.2) :
    let all := run ctx messages w
    let others := run (ctx.timed moment') (active ctx messages) { w with server }
    (ofActive ctx messages all.1).map Outcome.eventless = others.1.map Outcome.eventless ∧
      all.2.writes = others.2.writes ∧
      all.2.store.undated = others.2.store.undated ∧
      (∀ digest, all.2.store.reverse digest = others.2.store.reverse digest) ∧
      all.2.membership = others.2.membership ∧
      ∃ es fs : List AuditEntry, all.2.audit = es.foldl AuditLog.append w.audit ∧
        others.2.audit = fs.foldl AuditLog.append w.audit ∧
          es.map (·.undated.eventless) = fs.map (·.undated.eventless) := by
  intro all others
  obtain ⟨houtcomes, halike⟩ := run_alike messages (World.Alike.start w server) hanswers
  refine ⟨houtcomes, halike.writes, halike.store, fun digest => ?_, halike.membership, halike.audit⟩
  rw [← Store.reverse_undated, ← Store.reverse_undated others.2.store, halike.store]

theorem exists_exchange_of_mem_transcript {calls : List (Effect × Reply)} {messages : List Message}
    (h : calls ∈ transcript ctx messages w) :
    ∃ effects s, calls = (ctx.homeserver.exchange effects s).1 := by
  induction messages generalizing w with
  | nil => cases h
  | cons message messages ih =>
    rcases List.mem_cons.1 h with rfl | h
    · exact ⟨_, _, rfl⟩
    · exact ih h

/-- **A steady homeserver answers all sessions alike.** -/
theorem answeredAlike_of_steady (hsteady : ctx.homeserver.Steady)
    (messages messages' : List Message) (w v : World σ) :
    ∀ x ∈ (ofActive ctx messages (transcript ctx messages w)).zip
      (transcript (ctx.timed moment') messages' v), AnsweredAlike x.1 x.2 := by
  rintro ⟨calls, calls'⟩ hx
  obtain ⟨hcalls, hcalls'⟩ := List.of_mem_zip hx
  obtain ⟨⟨message, _⟩, hmem, rfl⟩ := List.mem_map.1 hcalls
  obtain ⟨effects, s, rfl⟩ :=
    exists_exchange_of_mem_transcript (List.of_mem_zip (List.mem_filter.1 hmem).1).2
  obtain ⟨effects', t, rfl⟩ := exists_exchange_of_mem_transcript hcalls'
  exact hsteady.answeredAlike effects effects' s t

/-- A stranger reports an event with a command, an administrator looks a user up and bans the user,
and then reports the event as well.  The first two leave no trace but in the numbers of the events
that carry the rules. -/
theorem passive_messages_leave_no_trace :
    let ctx : Context Nat :=
      { settings := Context.small.settings, lists := Context.small.lists,
        admins := Context.small.admins, homeserver := .numbering, moment := Context.small.moment }
    let report (reporter : String) : Message :=
      .report
        { reporter, roomId := some "!room:example.org", eventId := some "$event",
          reason := "/ban bans spam" }
    let messages : List Message :=
      [report "@stranger:example.org", .command (.small "!match @a:b"),
        .command (.small "!ban bans @a:b spam"), report "@admin:example.org"]
    let w : World Nat :=
      { store := .memory {}, membership := {}, audit := { file := .empty }, server := 0 }
    let moment : Moment :=
      { auditId := "0", auditTime := "2025-01-01T00:00:00Z", now := 0, elapsed := "2ms" }
    let all := run ctx messages w
    let others := run (ctx.timed fun _ => moment) (active ctx messages) { w with server := 5 }
    (ofActive ctx messages all.1).map Outcome.eventless = others.1.map Outcome.eventless ∧
      all.2.writes = others.2.writes ∧ all.2.store.undated = others.2.store.undated ∧
      (∀ digest, all.2.store.reverse digest = others.2.store.reverse digest) ∧
      all.2.membership = others.2.membership ∧
      ∃ es fs : List AuditEntry, all.2.audit = es.foldl AuditLog.append w.audit ∧
        others.2.audit = fs.foldl AuditLog.append w.audit ∧
          es.map (·.undated.eventless) = fs.map (·.undated.eventless) := by
  intro ctx report messages w moment
  exact passive_messages_do_not_interfere (fun _ => moment) messages w 5
    (answeredAlike_of_steady Homeserver.numbering_steady messages (active ctx messages) w
      { w with server := 5 })

end Session
end Moderation

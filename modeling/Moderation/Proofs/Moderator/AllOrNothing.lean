import Mathlib.Control.Monad.Basic
import Mathlib.Logic.ExistsUnique
import Moderation.Proofs.Moderator.Commanding
/-!
# Commands that change a list are all or nothing

A command to change a list ends in one of three ways (`Commands.Ends`).  The change is **made**: it
is published, stored and written down, and the message is marked.  Or it is **not taken**: the
homeserver was asked once and refused, which is written down and shown, and the store is as it was.
Or it is **refused** before anything is asked of the homeserver, and a notice is all that comes of
it.  Whatever the world is like, a command ends in exactly one of these ways, and it is refused
exactly if its list is not known, its entity has no kind, or the rules that stand are in its way
(`Commands.all_or_nothing`).
-/

namespace Moderation

variable {σ : Type} {ctx : Context σ} {m : Mutation} {p : Publication} {w : World σ}

theorem World.effects_published (actor : String) :
    (w.published ctx m p actor).effects = w.effects ++ [m.effect p] :=
  rfl

theorem World.audit_published (actor : String) :
    (w.published ctx m p actor).audit =
      w.audit.append (m.entry p actor (m.answer ctx p w) (ctx.moment w.ticks)) :=
  rfl

namespace Commands

variable {message : CommandMessage}

theorem acknowledge_error (e : CommandError) (w : World σ) :
    acknowledge ctx message (.error e) w = (.failed, w.shown ctx e.message) :=
  rfl

/-- A way in which a command to change a list ends. -/
inductive Ending where
  | made
  | notTaken
  | refused
  deriving DecidableEq, Repr

/-- How a command to change a list ends, given the world before it: the way, the status and the
world afterwards. -/
inductive Ends (ctx : Context σ) (message : CommandMessage) (w : World σ) :
    Ending → CommandStatus → World σ → Prop
  /-- The homeserver takes the publication, once; the rule is stored and the message is marked. -/
  | made {m : Mutation} {p : Publication} {eventId : String} {entry : AuditEntry}
      {timestamp : Int64} {v : World σ}
      (hasked : asked? ctx message = some m) (hplan : m.plan ctx.watched w.store = .ok p)
      (hanswer : m.answer ctx p w = .ok eventId)
      (heffects : v.effects = w.effects ++ [m.effect p, .react message.eventId])
      (haudit : v.audit = w.audit.append entry) (hresult : entry.result = "ok")
      (hevent : entry.eventId = some eventId) (hdetail : entry.detail = none)
      (hstore : v.store = m.recordIn p ctx.settings.botUser timestamp w.store) :
    Ends ctx message w .made .completed v
  /-- The homeserver does not take it; the entry says why, and nothing is stored. -/
  | notTaken {m : Mutation} {p : Publication} {e : HomeserverError} {entry : AuditEntry}
      {v : World σ}
      (hasked : asked? ctx message = some m) (hplan : m.plan ctx.watched w.store = .ok p)
      (hanswer : m.answer ctx p w = .error e)
      (heffects : v.effects = w.effects ++
        [m.effect p, .notice (CommandError.unpublished m.change e).message])
      (haudit : v.audit = w.audit.append entry) (hresult : entry.result = "failed")
      (hevent : entry.eventId = none) (hdetail : entry.detail = some e.message)
      (hstore : v.store = w.store) :
    Ends ctx message w .notTaken .failed v
  /-- The homeserver is not asked to publish anything, and nothing is written down or stored. -/
  | refused {e : CommandError} {v : World σ}
      (heffects : v.effects = w.effects ++ [.notice e.message])
      (haudit : v.audit = w.audit) (hstore : v.store = w.store) :
    Ends ctx message w .refused .failed v

/-- No two endings look the same. -/
theorem Ends.unique {ending ending' : Ending} {status : CommandStatus} {v : World σ}
    (h : Ends ctx message w ending status v) (h' : Ends ctx message w ending' status v) :
    ending = ending' := by
  cases h with
  | made => cases h' with
    | made => rfl
  | notTaken _ _ _ heffects =>
    cases h' with
    | notTaken => rfl
    | refused heffects' =>
      have hlength := congrArg List.length (heffects.symm.trans heffects')
      simp at hlength
  | refused heffects =>
    cases h' with
    | refused => rfl
    | notTaken _ _ _ heffects' =>
      have hlength := congrArg List.length (heffects.symm.trans heffects')
      simp at hlength

/-- What is in the way of a change: its list is not known, its entity has no kind, or the rules that
stand conflict with it. -/
inductive Obstructed (ctx : Context σ) (w : World σ) (shortcode entity : String) (change : Change) :
    Prop
  | unlisted (hlist : ctx.listNamed shortcode = none)
  | unclassified (hclass : Entity.classify entity = none)
  | conflicting {list : WatchedList} {kind : EntityKind} {conflict : Conflict}
      (hlist : ctx.listNamed shortcode = some list) (hclass : Entity.classify entity = some kind)
      (hplan : Mutation.plan { list, kind, entity, change } ctx.watched w.store = .error conflict)

section
variable {shortcode entity : String} {change : Change}

/-- A change comes to no mutation exactly if its list is not known or its entity has no kind. -/
theorem exists_mutation_error :
    (∃ e, mutation ctx shortcode entity change = .error e) ↔
      ctx.listNamed shortcode = none ∨ Entity.classify entity = none := by
  unfold mutation listNamed classify
  cases ctx.listNamed shortcode with
  | none => simp [bind, Except.bind]
  | some list => cases Entity.classify entity <;> simp [bind, Except.bind, pure, Except.pure]

/-- Where a change comes to a mutation it is obstructed by conflicts alone. -/
theorem obstructed_iff_of_mutation (hm : mutation ctx shortcode entity change = .ok m) :
    Obstructed ctx w shortcode entity change ↔
      ∃ conflict, m.plan ctx.watched w.store = .error conflict := by
  obtain ⟨list, kind, hlist, hclass, rfl⟩ := mutation_eq_ok.1 hm
  constructor
  · intro h
    cases h with
    | unlisted hnone => rw [hlist] at hnone; cases hnone
    | unclassified hnone => rw [hclass] at hnone; cases hnone
    | conflicting hlist' hclass' hplan =>
      obtain rfl := Option.some.inj (hlist.symm.trans hlist')
      obtain rfl := Option.some.inj (hclass.symm.trans hclass')
      exact ⟨_, hplan⟩
  · rintro ⟨conflict, hplan⟩
    exact .conflicting hlist hclass hplan

variable {command : Command} (hgate : gateOf ctx message = .pass)
  (hparse : Command.parse message.body = .ok (some command))
  (hchange : command.change? = some (shortcode, entity, change))
include hgate hparse

/-- A command that fails and leaves the world as it is comes to a notice. -/
theorem ends_of_error {e : CommandError}
    (h : execute ctx message.sender command w = (.error e, w)) :
    Ends ctx message w .refused (handle ctx message w).1 (handle ctx message w).2 := by
  rw [handle_of_pass hgate hparse, h, acknowledge_error]
  exact .refused rfl rfl rfl

include hchange

/-- A command whose mutation has a plan is published, and what the homeserver answers decides. -/
theorem ends_of_planned (hm : mutation ctx shortcode entity change = .ok m)
    (hplan : m.plan ctx.watched w.store = .ok p) :
    Ends ctx message w .made (handle ctx message w).1 (handle ctx message w).2 ∨
      Ends ctx message w .notTaken (handle ctx message w).1 (handle ctx message w).2 := by
  have hasked : asked? ctx message = some m :=
    asked?_eq_some.2 ⟨hgate, command, shortcode, entity, change, hparse, hchange, hm⟩
  rw [handle_of_asked? hasked, Mutation.run_planned hplan]
  have heffects (last : Effect) :
      (w.published ctx m p message.sender).effects ++ [last] = w.effects ++ [m.effect p, last] := by
    rw [World.effects_published, List.append_assoc]
    rfl
  have haudit : (w.published ctx m p message.sender).audit = _ :=
    World.audit_published message.sender
  cases hanswer : m.answer ctx p w with
  | ok eventId =>
    rw [hanswer] at haudit
    exact .inl (.made hasked hplan hanswer (heffects _) haudit rfl rfl rfl
      (World.published_store_of_ok hanswer message.sender))
  | error e =>
    rw [hanswer] at haudit
    exact .inr (.notTaken hasked hplan hanswer (heffects _) haudit rfl rfl rfl
      (World.published_store_of_error hanswer message.sender))

/-- **Commands that change a list are all or nothing.**  Whatever the world is like, a command that
passes the gate and is parsed as a change to a list ends in exactly one way: the change is made, or
the homeserver does not take it and nothing changes, or it is refused and nothing is even asked.
And it is refused exactly if its list is not known, its entity has no kind, or the rules that stand
conflict with it. -/
theorem all_or_nothing :
    (∃! ending, Ends ctx message w ending (handle ctx message w).1 (handle ctx message w).2) ∧
      (Ends ctx message w .refused (handle ctx message w).1 (handle ctx message w).2 ↔
        Obstructed ctx w shortcode entity change) := by
  have hexecute : execute ctx message.sender command =
      mutate ctx shortcode entity change message.sender :=
    execute_of_change hchange message.sender
  -- It is enough to find one ending that tells whether the command is obstructed.
  have hsettles {ending : Ending}
      (h : Ends ctx message w ending (handle ctx message w).1 (handle ctx message w).2)
      (hiff : ending = .refused ↔ Obstructed ctx w shortcode entity change) :
      (∃! ending, Ends ctx message w ending (handle ctx message w).1 (handle ctx message w).2) ∧
        (Ends ctx message w .refused (handle ctx message w).1 (handle ctx message w).2 ↔
          Obstructed ctx w shortcode entity change) := by
    refine ⟨⟨ending, h, fun _ h' => h'.unique h⟩, ?_⟩
    rw [← hiff]
    exact ⟨h.unique, fun heq => heq ▸ h⟩
  cases hm : mutation ctx shortcode entity change with
  | error e =>
    have hobstructed : Obstructed ctx w shortcode entity change := by
      rcases exists_mutation_error.1 ⟨e, hm⟩ with hlist | hclass
      · exact .unlisted hlist
      · exact .unclassified hclass
    have hends : Ends ctx message w .refused (handle ctx message w).1 (handle ctx message w).2 := by
      refine ends_of_error hgate hparse (e := e) ?_
      rw [hexecute, mutate, hm]
      rfl
    exact hsettles hends (iff_of_true rfl hobstructed)
  | ok m =>
    have hobstructed := obstructed_iff_of_mutation (w := w) hm
    cases hplan : m.plan ctx.watched w.store with
    | error conflict =>
      have hends :
          Ends ctx message w .refused (handle ctx message w).1 (handle ctx message w).2 := by
        refine ends_of_error hgate hparse
          (e := MutationFailure.toCommandError m (.conflict conflict)) ?_
        rw [hexecute, mutate_eq hm, Mutation.run_refused hplan]
      exact hsettles hends (iff_of_true rfl (hobstructed.2 ⟨conflict, hplan⟩))
    | ok p =>
      have hfree : ¬Obstructed ctx w shortcode entity change := by
        rw [hobstructed, hplan]
        rintro ⟨_, hconflict⟩
        cases hconflict
      rcases ends_of_planned hgate hparse hchange hm hplan with hmade | hnot
      · exact hsettles hmade (iff_of_false (by simp) hfree)
      · exact hsettles hnot (iff_of_false (by simp) hfree)

end

/-- A user is banned, and then a user is to be banned in a list that is not known: the first command
completes, and the second fails. -/
theorem all_or_nothing_ban :
    let ban : CommandMessage := .small "!ban bans @a:b spam"
    let stray : CommandMessage := .small "!ban spans @a:b spam"
    let banned := handle Context.small ban World.small
    let strayed := handle Context.small stray banned.2
    banned.1 = .completed ∧ strayed.1 = .failed ∧
    ((∃! ending, Ends Context.small ban World.small ending banned.1 banned.2) ∧
      (Ends Context.small ban World.small .refused banned.1 banned.2 ↔
        Obstructed Context.small World.small "bans" "@a:b" (.ban .ban "spam" false))) ∧
    ((∃! ending, Ends Context.small stray banned.2 ending strayed.1 strayed.2) ∧
      (Ends Context.small stray banned.2 .refused strayed.1 strayed.2 ↔
        Obstructed Context.small banned.2 "spans" "@a:b" (.ban .ban "spam" false))) := by
  intro ban stray banned strayed
  have hban : Command.parse "!ban bans @a:b spam" =
      .ok (some (.ban false false "bans" "@a:b" "spam")) := by
    decide +kernel
  have hstray : Command.parse "!ban spans @a:b spam" =
      .ok (some (.ban false false "spans" "@a:b" "spam")) := by
    decide +kernel
  have hcompleted : banned.1 = .completed := by decide +kernel
  have hfailed : strayed.1 = .failed := by decide +kernel
  exact ⟨hcompleted, hfailed, all_or_nothing rfl hban rfl, all_or_nothing rfl hstray rfl⟩

end Commands
end Moderation

import Moderation.Moderator.Commands
import Moderation.Moderator.Reports
import Moderation.Proofs.Homeserver.Answers
/-!
# What may be asked for

A mutation is **issued** when some command or some report asks for it: its list is one that is
watched, the entity of a command is one that has a kind, and a report is about a user.  These are
the only mutations that are ever carried out.
-/

namespace Moderation

/-- The list, the entity and the change that a command names, if it is a command that changes a
list. -/
def Command.change? : Command → Option (String × String × Change)
  | .ban takedown hashed list target reason =>
    some (list, target, .ban (if takedown then .takedown else .ban) reason hashed)
  | .remove kind list target => some (list, target, .remove kind)
  | .addUnban list target reason => some (list, target, .unban reason)
  | _ => none

theorem toOption_eq_some {ε α : Type} {x : Except ε α} {a : α} :
    x.toOption = some a ↔ x = .ok a := by
  cases x <;> simp [Except.toOption]

variable {σ : Type} {ctx : Context σ}

theorem Commands.mutation_eq_ok {shortcode entity : String} {change : Change} {m : Mutation} :
    Commands.mutation ctx shortcode entity change = .ok m ↔
      ∃ list kind, ctx.listNamed shortcode = some list ∧ Entity.classify entity = some kind ∧
        m = { list, kind, entity, change } := by
  unfold Commands.mutation Commands.listNamed Commands.classify
  cases ctx.listNamed shortcode with
  | none => simp [bind, Except.bind]
  | some list =>
    cases Entity.classify entity with
    | none => simp [bind, Except.bind]
    | some kind => simp [bind, Except.bind, pure, Except.pure, eq_comm]

/-- A command that changes a list is carried out as that change. -/
theorem Commands.execute_of_change {c : Command} {shortcode entity : String} {change : Change}
    (h : c.change? = some (shortcode, entity, change)) (actor : String) :
    Commands.execute ctx actor c = Commands.mutate ctx shortcode entity change actor := by
  cases c with
  | ban | remove | addUnban =>
    simp only [Command.change?, Option.some.injEq, Prod.mk.injEq] at h
    obtain ⟨rfl, rfl, rfl⟩ := h
    rfl
  | _ => cases h

/-- What has a kind is not empty. -/
theorem Entity.ne_empty_of_classify {entity : String} {kind : EntityKind}
    (h : classify entity = some kind) : entity ≠ "" := by
  rintro rfl
  cases h

theorem Context.roomId_mem_watched {shortcode : String} {list : WatchedList}
    (h : ctx.listNamed shortcode = some list) :
    list.roomId ∈ ctx.watched :=
  List.mem_map_of_mem (List.mem_of_find?_eq_some h)

namespace Mutation

/-- A mutation that some command or some report asks for. -/
inductive Issued (ctx : Context σ) : Mutation → Prop
  | command {c : Command} {shortcode entity : String} {change : Change} {m : Mutation}
      (hc : c.change? = some (shortcode, entity, change))
      (hm : Commands.mutation ctx shortcode entity change = .ok m) :
      Issued ctx m
  | report {shortcode : String} {list : WatchedList} (hl : ctx.listNamed shortcode = some list)
      (entity reason : String) : Issued ctx (Reports.banMutation list entity reason)

variable {m : Mutation}

theorem Issued.watched (h : m.Issued ctx) : m.list.roomId ∈ ctx.watched := by
  cases h with
  | command hc hm =>
    obtain ⟨list, kind, hl, -, rfl⟩ := Commands.mutation_eq_ok.1 hm
    exact Context.roomId_mem_watched hl
  | report hl entity reason => exact Context.roomId_mem_watched hl

/-- A query for all the lists that are watched goes to the list of the mutation too. -/
theorem Issued.scope (h : m.Issued ctx) : ∀ lists ∈ some ctx.watched, m.list.roomId ∈ lists := by
  intro lists hlists
  exact Option.some.inj hlists ▸ h.watched

theorem Issued.kind_of_report (h : m.Issued ctx) {reason : String}
    (hr : m.change = .reportBan reason) :
    m.kind = .user := by
  cases h with
  | @command c _ _ change _ hc hm =>
    obtain ⟨list, kind, -, -, rfl⟩ := Commands.mutation_eq_ok.1 hm
    cases hr
    cases c <;> simp [Command.change?] at hc
  | report => rfl

/-- The entity of a command has the kind of its mutation. -/
theorem Issued.classify_eq (h : m.Issued ctx) (hr : ∀ reason, m.change ≠ .reportBan reason) :
    Entity.classify m.entity = some m.kind := by
  cases h with
  | command hc hm =>
    obtain ⟨list, kind, -, hkind, rfl⟩ := Commands.mutation_eq_ok.1 hm
    exact hkind
  | report hl entity reason => exact absurd rfl (hr reason)

/-- The entity of a command is not empty, having a kind. -/
theorem Issued.entity_ne_empty (h : m.Issued ctx) (hr : ∀ reason, m.change ≠ .reportBan reason) :
    m.entity ≠ "" :=
  Entity.ne_empty_of_classify (h.classify_eq hr)

end Mutation

/-- A moderator of one list with one administrator, whose homeserver grants whatever is asked. -/
def Context.small : Context Unit where
  settings :=
    { botUser := "@bot:example.org", requireEncryption := true, leastTrust := .crossSignedTofu,
      dryRun := false, kickThreshold := 5, kickConcurrency := 1 }
  lists := [{ roomId := "!list:example.org", shortcode := "bans", name := "Bans" }]
  admins := ["@admin:example.org"]
  homeserver := .willing
  moment n :=
    { auditId := toString n, auditTime := "2024-01-01T00:00:00Z", now := 1704067200000,
      elapsed := "1ms" }

/-- The world in which that moderator begins, with a store in memory. -/
def World.small : World Unit :=
  { store := .memory {}, membership := {}, audit := { file := .empty }, server := () }

/-- A command that the administrator gives. -/
def CommandMessage.small (body : String) : CommandMessage where
  eventId := "$1"
  sender := "@admin:example.org"
  body := body
  encrypted := true
  trust := .verified

end Moderation

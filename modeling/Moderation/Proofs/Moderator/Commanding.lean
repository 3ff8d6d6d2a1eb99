import Moderation.Proofs.Moderator.Carrying
import Moderation.Proofs.Moderator.Likeness
/-!
# What becomes of a command

A command message that passes the gate may ask for a mutation (`Commands.asked?`).  If it does, it
is handled as the mutation is carried out (`Commands.handle_of_asked?`); if it does not, what lasts
while nothing is published lasts while it is handled (`Commands.handle_keeps`).
-/

namespace Moderation.Commands

variable {σ : Type} {ctx : Context σ} {message : CommandMessage} {w : World σ}

/-- The gate that a command message is held against. -/
def gateOf (ctx : Context σ) (message : CommandMessage) : GateDecision :=
  gate message.encrypted message.trust ctx.settings.requireEncryption ctx.settings.leastTrust

/-- The mutation that a command message asks for. -/
def asked? (ctx : Context σ) (message : CommandMessage) : Option Mutation :=
  match gateOf ctx message, Command.parse message.body with
  | .pass, .ok (some command) =>
    command.change?.bind fun (shortcode, entity, change) =>
      (mutation ctx shortcode entity change).toOption
  | _, _ => none

theorem asked?_eq_some {m : Mutation} :
    asked? ctx message = some m ↔
      gateOf ctx message = .pass ∧ ∃ command shortcode entity change,
        Command.parse message.body = .ok (some command) ∧
        command.change? = some (shortcode, entity, change) ∧
        mutation ctx shortcode entity change = .ok m := by
  unfold asked?
  constructor
  · intro h
    split at h
    · next command hgate hparse =>
      obtain ⟨⟨shortcode, entity, change⟩, hchange, hm⟩ := Option.bind_eq_some_iff.1 h
      exact ⟨hgate, command, shortcode, entity, change, hparse, hchange, toOption_eq_some.1 hm⟩
    · cases h
  · rintro ⟨hgate, command, shortcode, entity, change, hparse, hchange, hm⟩
    simp only [hgate, hparse, hchange, Option.bind_some, hm]
    rfl

theorem issued_of_asked? {m : Mutation} (h : asked? ctx message = some m) : m.Issued ctx := by
  obtain ⟨-, command, shortcode, entity, change, -, hchange, hm⟩ := asked?_eq_some.1 h
  exact .command hchange hm

/-! ## How a command message is handled -/

theorem handle_of_dropped (hgate : gateOf ctx message ≠ .pass) :
    handle ctx message w = (.dropped, w) := by
  unfold gateOf at hgate
  unfold handle
  cases hdecision : gate message.encrypted message.trust ctx.settings.requireEncryption
      ctx.settings.leastTrust with
  | pass => exact absurd hdecision hgate
  | _ => rfl

theorem handle_of_ignored (hgate : gateOf ctx message = .pass)
    (hparse : Command.parse message.body = .ok none) :
    handle ctx message w = (.ignored, w) := by
  unfold gateOf at hgate
  unfold handle
  simp only [hgate, hparse]
  rfl

theorem handle_of_usage {e : Command.UsageError} (hgate : gateOf ctx message = .pass)
    (hparse : Command.parse message.body = .error e) :
    handle ctx message w = (.failed, w.shown ctx (CommandError.usage e).message) := by
  unfold gateOf at hgate
  unfold handle
  simp only [hgate, hparse]
  rfl

theorem handle_of_pass {command : Command} (hgate : gateOf ctx message = .pass)
    (hparse : Command.parse message.body = .ok (some command)) :
    handle ctx message w =
      acknowledge ctx message (execute ctx message.sender command w).1
        (execute ctx message.sender command w).2 := by
  unfold gateOf at hgate
  unfold handle
  simp only [hgate, hparse]
  rfl

theorem acknowledge_fst (result : Except CommandError Acknowledgement) :
    (acknowledge ctx message result w).1 = match result with
      | .ok _ => .completed
      | .error _ => .failed := by
  match result with
  | .ok .reaction => rfl
  | .ok .quiet => rfl
  | .error _ => rfl

theorem mutate_eq {shortcode entity : String} {change : Change} {m : Mutation}
    (h : mutation ctx shortcode entity change = .ok m) (actor : String) :
    mutate ctx shortcode entity change actor w =
      (match (m.run ctx actor w).1 with
        | .ok _ => .ok .reaction
        | .error e => .error (e.toCommandError m),
      (m.run ctx actor w).2) := by
  unfold mutate
  simp only [h, Act.bind_apply]
  cases (m.run ctx actor w).1 <;> rfl

/-- A command that asks for a mutation is handled as the mutation is carried out. -/
theorem handle_of_asked? {m : Mutation} (h : asked? ctx message = some m) :
    handle ctx message w =
      acknowledge ctx message
        (match (m.run ctx message.sender w).1 with
          | .ok _ => .ok .reaction
          | .error e => .error (e.toCommandError m))
        (m.run ctx message.sender w).2 := by
  obtain ⟨hgate, command, shortcode, entity, change, hparse, hchange, hm⟩ := asked?_eq_some.1 h
  rw [handle_of_pass hgate hparse, execute_of_change hchange, mutate_eq hm]

/-- A command that names a change and completes has asked for a mutation. -/
theorem exists_asked? {command : Command} {shortcode entity : String} {change : Change}
    (hparse : Command.parse message.body = .ok (some command))
    (hchange : command.change? = some (shortcode, entity, change))
    (hdone : (handle ctx message w).1 = .completed) :
    ∃ m, mutation ctx shortcode entity change = .ok m ∧ asked? ctx message = some m := by
  by_cases hgate : gateOf ctx message = .pass
  · cases hm : mutation ctx shortcode entity change with
    | error e =>
      rw [handle_of_pass hgate hparse, execute_of_change hchange, acknowledge_fst, mutate, hm]
        at hdone
      cases hdone
    | ok m =>
      refine ⟨m, rfl, asked?_eq_some.2 ?_⟩
      exact ⟨hgate, command, shortcode, entity, change, hparse, hchange, hm⟩
  · rw [handle_of_dropped hgate] at hdone
    cases hdone

/-! ## Commands that ask for no mutation -/

theorem execute_keeps {P : World σ → Prop} (hP : Act.Keeps P) {command : Command}
    (hchange : command.change? = none) (actor : String) :
    Act.Preserves P (execute ctx actor command) := by
  have hrespects := hP.respects ctx
  by_cases hl : ∃ target, command = .lookUp target
  · obtain ⟨target, rfl⟩ := hl
    have hmoment : (Act.Coupling.ofWorlds fun w v => w = v ∧ P w).Holds Eq (Act.moment ctx)
        (Act.moment ctx) := by
      rintro v _ ⟨rfl, hv⟩
      exact ⟨rfl, rfl, hP.ticked _ v hv⟩
    have hrelated := lookUp_related_self (Act.Coupling.ofWorlds_sees fun _ _ h => h.1)
      (hrespects.notice ctx.moment) hmoment target
    exact hrelated.preserves
  · have hrelated := execute_related hrespects hchange (fun target heq => hl ⟨target, heq⟩) actor
    exact hrelated.preserves

theorem acknowledge_keeps {P : World σ → Prop} (hP : Act.Keeps P)
    (result : Except CommandError Acknowledgement) :
    Act.Preserves P (acknowledge ctx message result) := by
  have hrelated : (Act.Coupling.ofWorlds fun w v => w = v ∧ P w).Holds Eq
      (acknowledge ctx message result) (acknowledge (ctx.timed ctx.moment) message result) :=
    acknowledge_related (hP.respects ctx).toAsks message result
  exact hrelated.preserves

/-- **A command that asks for no mutation publishes nothing**: what lasts while nothing is published
lasts while it is handled. -/
theorem handle_keeps {P : World σ → Prop} (hP : Act.Keeps P) (h : asked? ctx message = none) :
    Act.Preserves P (handle ctx message) := by
  intro w hw
  by_cases hgate : gateOf ctx message = .pass
  · match hparse : Command.parse message.body with
    | .error e =>
      rw [handle_of_usage hgate hparse]
      exact hP.asked rfl _ w hw
    | .ok none =>
      rw [handle_of_ignored hgate hparse]
      exact hw
    | .ok (some command) =>
      rw [handle_of_pass hgate hparse]
      refine acknowledge_keeps hP _ _ ?_
      cases hchange : command.change? with
      | none => exact execute_keeps hP hchange message.sender w hw
      | some named =>
        -- The change comes to no mutation, as its list is not known or its entity has no kind.
        obtain ⟨shortcode, entity, change⟩ := named
        rw [execute_of_change hchange]
        cases hm : mutation ctx shortcode entity change with
        | error e =>
          unfold mutate
          simp only [hm]
          exact hw
        | ok m =>
          rw [asked?_eq_some.2 ⟨hgate, command, shortcode, entity, change, hparse, hchange, hm⟩]
            at h
          cases h
  · rw [handle_of_dropped hgate]
    exact hw

end Moderation.Commands

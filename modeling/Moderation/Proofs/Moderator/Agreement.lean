import Moderation.Proofs.Moderator.Deeds
/-!
# The homeserver, the store and the audit log agree

The deeds of a session are read off its messages: a rule that is ingested, what a command or a
report asks the homeserver to publish, and the users that a command kicks (`Session.deeds`).  They
account for all that becomes of the world (`Session.homeserver_store_and_log_agree`): the store
gains the rules that were ingested or published, in order, and nothing else, and the audit log has
one entry for each publication that was tried and each user that was kicked, in order, and no other.

That is so of each message (`Session.take_went`), which is of one of three kinds: it only asks
things of the homeserver, or it asks for a mutation that is refused or published, or it kicks.
-/

namespace Moderation

variable {σ : Type} {ctx : Context σ} {w : World σ}

/-! ## Commands -/

namespace Commands

/-- What comes of the users that a command kicks. -/
def kicksOf (ctx : Context σ) (actor : String) : Command → World σ → List KickOutcome
  | .kick force pattern reason, w =>
    match Glob.compile pattern with
    | .ok glob => Kick.outcomes (Kick.run ctx glob reason force actor w).1
    | .error _ => []
  | _, _ => []

/-- What comes of the users that a command message kicks. -/
def kicks (ctx : Context σ) (message : CommandMessage) (w : World σ) : List KickOutcome :=
  match gateOf ctx message, Command.parse message.body with
  | .pass, .ok (some command) => kicksOf ctx message.sender command w
  | _, _ => []

/-- What is shown of the result of a command is no deed. -/
theorem acknowledge_went (message : CommandMessage)
    (result : Except CommandError Acknowledgement) (w : World σ) :
    World.Went ctx [] w (acknowledge ctx message result w).2 := by
  refine .of_asks (fun K h => ?_) w
  have hrelated : K.Holds Eq (acknowledge ctx message result)
      (acknowledge (ctx.timed ctx.moment) message result) := acknowledge_related h message result
  exact hrelated

/-- To look something up is no deed. -/
theorem lookUp_went (target : String) (w : World σ) :
    World.Went ctx [] w (lookUp ctx target w).2 := by
  have hrelated : (Act.Coupling.ofWorlds fun v v' => v = v' ∧ World.Went ctx [] w v).Holds Eq
      (lookUp ctx target) (lookUp ctx target) := by
    refine lookUp_related_self (Act.Coupling.ofWorlds_sees fun _ _ h => h.1) ?_ ?_ target
    · rintro text v _ ⟨rfl, hv⟩
      exact ⟨rfl, rfl, hv.trans (.asked (Homeserver.serves_notice text) rfl v)⟩
    · rintro v _ ⟨rfl, hv⟩
      -- Only the time has moved on.
      exact ⟨rfl, rfl, hv.store, hv.audit, hv.calls⟩
  exact hrelated.preserves w (.refl w)

/-- A mutation tries to publish, or it is refused. -/
theorem run_went (m : Mutation) (actor : String) (w : World σ) :
    ∃ deeds : List Deed, (∀ deed ∈ deeds, deed.isTried = true) ∧
      World.Went ctx deeds w (m.run ctx actor w).2 := by
  cases hplan : m.plan ctx.watched w.store with
  | error c =>
    rw [Mutation.run_refused hplan]
    exact ⟨[], by simp, .refl w⟩
  | ok p =>
    rw [Mutation.run_planned hplan]
    exact ⟨_, by simp [Deed.isTried], .published m p actor w⟩

theorem kick_snd {pattern : String} {glob : Glob} (h : Glob.compile pattern = .ok glob)
    (force : Bool) (reason actor : String) (w : World σ) :
    (kick ctx force pattern reason actor w).2 = (Kick.run ctx glob reason force actor w).2 := by
  unfold kick
  simp only [h]
  rw [Act.bind_apply]
  cases (Kick.run ctx glob reason force actor w).1 <;> rfl

/-- A kick is one deed for each user that is kicked. -/
theorem kick_went (force : Bool) (pattern reason actor : String) (w : World σ) :
    World.Went ctx ((kicksOf ctx actor (.kick force pattern reason) w).map .kicked) w
      (kick ctx force pattern reason actor w).2 := by
  cases hglob : Glob.compile pattern with
  | error e =>
    have hkicks : kicksOf ctx actor (.kick force pattern reason) w = [] := by
      simp only [kicksOf, hglob]
    unfold kick
    simp only [hglob, hkicks]
    exact .refl w
  | ok glob =>
    have hkicks : kicksOf ctx actor (.kick force pattern reason) w =
        Kick.outcomes (Kick.run ctx glob reason force actor w).1 := by
      simp only [kicksOf, hglob]
    rw [kick_snd hglob, hkicks]
    exact Kick.run_went glob reason force actor w

/-- **A command tries to publish, or it kicks users, or it does neither.** -/
theorem execute_went (actor : String) (command : Command) (w : World σ) :
    ∃ deeds : List Deed, (∀ deed ∈ deeds, deed.isTried = true) ∧
      World.Went ctx (deeds ++ (kicksOf ctx actor command w).map .kicked) w
        (execute ctx actor command w).2 := by
  cases hchange : command.change? with
  | none =>
    refine ⟨[], by simp, ?_⟩
    by_cases hk : ∃ force pattern reason, command = .kick force pattern reason
    · obtain ⟨force, pattern, reason, rfl⟩ := hk
      exact kick_went force pattern reason actor w
    · have hkicks : kicksOf ctx actor command w = [] := by
        cases command with
        | kick force pattern reason => exact absurd ⟨force, pattern, reason, rfl⟩ hk
        | _ => rfl
      rw [hkicks]
      by_cases hl : ∃ target, command = .lookUp target
      · obtain ⟨target, rfl⟩ := hl
        exact lookUp_went target w
      · refine .of_asks (fun K h => ?_) w
        exact execute_asks h hchange
          (fun force pattern reason heq => hk ⟨force, pattern, reason, heq⟩)
          (fun target heq => hl ⟨target, heq⟩) actor
  | some named =>
    obtain ⟨shortcode, entity, change⟩ := named
    have hkicks : kicksOf ctx actor command w = [] := by
      cases command with
      | kick => cases hchange
      | _ => rfl
    simp only [hkicks, execute_of_change hchange, List.map_nil, List.append_nil]
    cases hm : mutation ctx shortcode entity change with
    | error e =>
      unfold mutate
      simp only [hm]
      exact ⟨[], by simp, .refl w⟩
    | ok m =>
      rw [mutate_eq hm]
      exact run_went m actor w

/-- **A command message does what its command does**, if it passes and there is one. -/
theorem handle_went (message : CommandMessage) (w : World σ) :
    ∃ deeds : List Deed, (∀ deed ∈ deeds, deed.isTried = true) ∧
      World.Went ctx (deeds ++ (kicks ctx message w).map .kicked) w
        (handle ctx message w).2 := by
  by_cases hgate : gateOf ctx message = .pass
  · match hparse : Command.parse message.body with
    | .error e =>
      have hkicks : kicks ctx message w = [] := by simp only [kicks, hgate, hparse]
      rw [handle_of_usage hgate hparse, hkicks]
      exact ⟨[], by simp, .asked (Homeserver.serves_notice _) rfl w⟩
    | .ok none =>
      have hkicks : kicks ctx message w = [] := by simp only [kicks, hgate, hparse]
      rw [handle_of_ignored hgate hparse, hkicks]
      exact ⟨[], by simp, .refl w⟩
    | .ok (some command) =>
      have hkicks : kicks ctx message w = kicksOf ctx message.sender command w := by
        simp only [kicks, hgate, hparse]
      obtain ⟨deeds, htried, hwent⟩ := execute_went message.sender command w
      rw [handle_of_pass hgate hparse, hkicks]
      refine ⟨deeds, htried, ?_⟩
      rw [← List.append_nil (deeds ++ _)]
      exact hwent.trans (acknowledge_went message _ _)
  · have hkicks : kicks ctx message w = [] := by
      unfold kicks
      split
      · exact absurd ‹_› hgate
      · rfl
    rw [handle_of_dropped hgate, hkicks]
    exact ⟨[], by simp, .refl w⟩

end Commands

/-! ## Reports -/

namespace Reports

theorem Located.went {report : Report} {sender target : Option String} {w₁ : World σ}
    (h : Located ctx report w sender target w₁) : World.Went ctx [] w w₁ := by
  cases h with
  | named => exact .refl w
  | sent => exact .asked (Homeserver.serves_eventSender _ _) rfl w

/-- **A report does nothing but try to publish.** -/
theorem handle_went (report : Report) (w : World σ) :
    ∃ deeds : List Deed, (∀ deed ∈ deeds, deed.isTried = true) ∧
      World.Went ctx deeds w (handle ctx report w).2 := by
  have hshown {deeds : List Deed} {v : World σ} (h : World.Went ctx deeds w v) (text : String) :
      World.Went ctx deeds w (v.shown ctx text) := by
    rw [← List.append_nil deeds]
    exact h.trans (.asked (Homeserver.serves_notice text) rfl v)
  obtain ⟨result, w', hcase⟩ := exists_handled ctx report w
  rw [hcase.handle_eq]
  cases hcase with
  | unfetched =>
    exact ⟨[], by simp, hshown (.asked (Homeserver.serves_eventSender _ _) rfl w) _⟩
  | shown hl _ => exact ⟨[], by simp, hshown hl.went _⟩
  | escalated hl _ _ _ he =>
    cases he with
    | ignored | incomplete | unbanned | banned => exact ⟨[], by simp, hl.went⟩
    | unlisted => exact ⟨[], by simp, hshown hl.went _⟩
    | published | unpublished =>
      exact ⟨_, by simp [Deed.isTried], hshown (hl.went.trans (.published _ _ _ _)) _⟩

end Reports

/-! ## Rules and changes in membership -/

namespace Service

/-- What is done when a rule is taken: it is ingested if it lacks nothing. -/
def ingestion (r : PolicyRecord) : List Deed :=
  if r.listRoom.isEmpty || r.stateKey.isEmpty then [] else [.ingested r]

/-- **A rule that lacks nothing is put into the store.** -/
theorem takePolicy_went (r : PolicyRecord) (w : World σ) :
    World.Went ctx (ingestion r) w (takePolicy r w).2 := by
  unfold takePolicy ingestion
  split
  · exact .refl w
  · refine ⟨?_, ⟨[], rfl, .nil⟩, ⟨[], (List.append_nil _).symm, rfl, rfl⟩⟩
    rw [Act.bind_apply, Act.modify_apply]
    dsimp only
    split
    · exact (Store.Gained.remember _ r.content.entity).trans (.publish _ r)
    · exact .publish _ r

/-- A change in membership is no deed. -/
theorem takeMembership_went (u : MembershipUpdate) (w : World σ) :
    World.Went ctx [] w (takeMembership u w).2 := by
  unfold takeMembership
  split
  · exact .refl w
  · exact ⟨.rememberAll w.store u.joined, ⟨[], rfl, .nil⟩, ⟨[], (List.append_nil _).symm, rfl, rfl⟩⟩

end Service

/-! ## Sessions -/

namespace Session

/-- What is done when a message is taken; what was tried for a command or a report is what the
homeserver was asked to publish meanwhile. -/
def deedsOf (ctx : Context σ) (w : World σ) : Message → List Deed
  | .command c =>
    w.tried ctx (Commands.handle ctx c w).2 ++ (Commands.kicks ctx c w).map .kicked
  | .report r => w.tried ctx (Reports.handle ctx r w).2
  | .policy r => Service.ingestion r
  | .membership _ => []

/-- What is done in a session. -/
def deeds (ctx : Context σ) : List Message → World σ → List Deed
  | [], _ => []
  | message :: messages, w =>
    deedsOf ctx w message ++ deeds ctx messages (take ctx message w).2

/-- **What becomes of the world when a message is taken is accounted for by its deeds.** -/
theorem take_went (message : Message) (w : World σ) :
    World.Went ctx (deedsOf ctx w message) w (take ctx message w).2 := by
  match message with
  | .command c =>
    obtain ⟨deeds, htried, hwent⟩ := Commands.handle_went c w
    exact hwent.of_tried htried
  | .report r =>
    obtain ⟨deeds, htried, hwent⟩ := Reports.handle_went r w
    have hnone : World.Went ctx (deeds ++ [].map .kicked) w (Reports.handle ctx r w).2 := by
      simpa using hwent
    have hof := hnone.of_tried htried
    rw [List.map_nil, List.append_nil] at hof
    exact hof
  | .policy r => exact Service.takePolicy_went r w
  | .membership u => exact Service.takeMembership_went u w

/-- **The homeserver, the store and the audit log agree.**  Whatever messages are taken from
whatever world, the deeds of the session account for all three: the publications that were tried are
what the homeserver was asked to publish and how it answered; the store is, apart from times and
remembered users, what it becomes when the rules that were ingested and those that were published
are put into it; and the audit log has gained one entry for each publication that was tried, which
is `ok` and has an event exactly if it succeeded, and one for each user that was kicked. -/
theorem homeserver_store_and_log_agree (ctx : Context σ) (messages : List Message) (w : World σ) :
    World.Went ctx (deeds ctx messages w) w (run ctx messages w).2 := by
  induction messages generalizing w with
  | nil => exact .refl w
  | cons message messages ih =>
    rw [run_cons]
    exact (take_went message w).trans (ih _)

end Session
end Moderation

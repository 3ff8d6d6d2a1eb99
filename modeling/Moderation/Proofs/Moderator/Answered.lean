import Moderation.Proofs.Moderator.SideBySide
/-!
# Acts that are answered alike

What an act comes to depends on the homeserver only through the replies that it gets.  So two acts
go on alike from worlds whose homeservers have nothing to do with each other, as long as their calls
are answered alike (`Act.Answered`).  As soon as one reply differs nothing more is promised; but
until then both ask the same, so it is the replies to the same calls that are compared.

That is a coupling (`Act.Coupling.answered`).  An act that asks nothing (`Act.Silent`) does alike in
it if it does alike as a matter of worlds (`Act.Answered.of_silent`), and the coupling carries
messages if the worlds stay alike whatever is asked (`World.Akin.answered_carries`).
-/

namespace Moderation

variable {σ α β : Type} {ctx : Context σ}

/-! ## Calls -/

/-- The calls to the homeserver between a world and a later one, with their replies: what was asked
in between is asked again. -/
def World.calls (ctx : Context σ) (w w' : World σ) : List (Effect × Reply) :=
  (ctx.homeserver.exchange (w'.effects.drop w.effects.length) w.server).1

/-- Between a world and a later one, some things were asked of the homeserver, and it is in the
state after them. -/
structure World.Exchanged (ctx : Context σ) (asked : List Effect) (w w' : World σ) : Prop where
  effects : w'.effects = w.effects ++ asked
  server : w'.server = (ctx.homeserver.exchange asked w.server).2

namespace World.Exchanged

variable {asked more : List Effect} {w w' w'' : World σ}

theorem nothing (heffects : w'.effects = w.effects) (hserver : w'.server = w.server) :
    Exchanged ctx [] w w' where
  effects := heffects.trans (List.append_nil _).symm
  server := hserver

theorem trans (h : Exchanged ctx asked w w') (h' : Exchanged ctx more w' w'') :
    Exchanged ctx (asked ++ more) w w'' where
  effects := by rw [h'.effects, h.effects, List.append_assoc]
  server := by rw [h'.server, h.server, Homeserver.exchange_append]

theorem calls_eq (h : Exchanged ctx asked w w') :
    w.calls ctx w' = (ctx.homeserver.exchange asked w.server).1 := by
  rw [World.calls, h.effects, List.drop_left]

theorem calls_append (h : Exchanged ctx asked w w') (h' : Exchanged ctx more w' w'') :
    w.calls ctx w'' = w.calls ctx w' ++ w'.calls ctx w'' := by
  rw [(h.trans h').calls_eq, h.calls_eq, h'.calls_eq, h.server, Homeserver.exchange_append]

theorem length_calls (h : Exchanged ctx asked w w') :
    (w.calls ctx w').length = asked.length := by
  have hasked := congrArg List.length (ctx.homeserver.map_exchange asked w.server)
  rwa [List.length_map, ← h.calls_eq] at hasked

end World.Exchanged

/-! ## Acts that ask nothing -/

namespace Act

/-- An act that asks nothing of the homeserver. -/
def Silent (act : Act σ α) : Prop :=
  ∀ w, (act w).2.effects = w.effects ∧ (act w).2.server = w.server

theorem silent_pure (a : α) : Silent (pure a : Act σ α) := fun _ => ⟨rfl, rfl⟩

theorem silent_settle (m : Mutation) (p : Publication) (actor : String) (answer : Answer String) :
    Silent (m.settle ctx p actor answer) := by
  intro w
  rw [m.settle_apply]
  cases answer <;> exact ⟨rfl, rfl⟩

theorem silent_takePolicy (r : PolicyRecord) :
    Silent (Service.takePolicy r : Act σ Response) := by
  intro w
  unfold Service.takePolicy
  split <;> exact ⟨rfl, rfl⟩

theorem silent_takeMembership (u : MembershipUpdate) :
    Silent (Service.takeMembership u : Act σ Response) := by
  intro w
  unfold Service.takeMembership
  split <;> exact ⟨rfl, rfl⟩

/-! ## The coupling -/

/-- Two acts ask things of the homeserver, one after another.  If they are answered alike, then they
ask the same, and lead from worlds in a relation to worlds in it and to results in another. -/
structure Answered (ctx : Context σ) (R : World σ → World σ → Prop) (Q : α → α → Prop)
    (act act' : Act σ α) : Prop where
  left : ∀ w, ∃ asked, World.Exchanged ctx asked w (act w).2
  right : ∀ v, ∃ asked, World.Exchanged ctx asked v (act' v).2
  alike : ∀ w v, R w v → AnsweredAlike (w.calls ctx (act w).2) (v.calls ctx (act' v).2) →
    Q (act w).1 (act' v).1 ∧ R (act w).2 (act' v).2 ∧ ∃ asked,
      World.Exchanged ctx asked w (act w).2 ∧ World.Exchanged ctx asked v (act' v).2

namespace Answered

variable {R : World σ → World σ → Prop} {Q : α → α → Prop} {T : β → β → Prop}
  {act act' : Act σ α}

/-- Acts that ask nothing. -/
theorem of_silent (hleft : Silent act) (hright : Silent act')
    (h : (Coupling.ofWorlds R).Holds Q act act') : Answered ctx R Q act act' where
  left w := ⟨[], .nothing (hleft w).1 (hleft w).2⟩
  right v := ⟨[], .nothing (hright v).1 (hright v).2⟩
  alike w v hwv _ := by
    obtain ⟨hresult, hafter⟩ := h w v hwv
    exact ⟨hresult, hafter, [], .nothing (hleft w).1 (hleft w).2,
      .nothing (hright v).1 (hright v).2⟩

theorem bind {next next' : α → Act σ β} (h : Answered ctx R Q act act') (hQ : ∀ a, Q a a)
    (hnext : ∀ a b, Q a b → Answered ctx R T (next a) (next' b)) :
    Answered ctx R T (act >>= next) (act' >>= next') where
  left w := by
    obtain ⟨_, hact⟩ := h.left w
    obtain ⟨_, hmore⟩ := (hnext _ _ (hQ _)).left (act w).2
    exact ⟨_, hact.trans hmore⟩
  right v := by
    obtain ⟨_, hact⟩ := h.right v
    obtain ⟨_, hmore⟩ := (hnext _ _ (hQ _)).right (act' v).2
    exact ⟨_, hact.trans hmore⟩
  alike w v hwv hcalls := by
    obtain ⟨_, hact⟩ := h.left w
    obtain ⟨_, hact'⟩ := h.right v
    obtain ⟨_, hmore⟩ := (hnext _ _ (hQ _)).left (act w).2
    obtain ⟨_, hmore'⟩ := (hnext _ _ (hQ _)).right (act' v).2
    rw [bind_apply, bind_apply, hact.calls_append hmore, hact'.calls_append hmore'] at hcalls
    obtain ⟨hresult, hafter, asked, hasked, hasked'⟩ := h.alike w v hwv hcalls.left
    -- Both have asked the same so far, so that their calls after that are compared in step.
    have hlength := hasked.length_calls.trans hasked'.length_calls.symm
    obtain ⟨hlast, hend, more, hlater, hlater'⟩ :=
      (hnext _ _ hresult).alike _ _ hafter (hcalls.right hlength)
    exact ⟨hlast, hend, _, hasked.trans hlater, hasked'.trans hlater'⟩

/-- To look at the world is to go on with one of two worlds that are seen alike. -/
theorem get {P : World σ → World σ → Prop} {next next' : World σ → Act σ α}
    (hR : ∀ w v, R w v → P w v) (hP : ∀ w, P w w)
    (h : ∀ w v, P w v → Answered ctx R Q (next w) (next' v)) :
    Answered ctx R Q (get >>= next) (get >>= next') where
  left w := (h w w (hP w)).left w
  right v := (h v v (hP v)).right v
  alike w v hwv hcalls := (h w v (hR w v hwv)).alike w v hwv hcalls

/-- The same call in both worlds, to results that are in a relation if the replies say the same. -/
theorem call {effect : Effect} {call : StateM σ α} {f : α → Reply}
    (hf : ∀ s, ctx.homeserver.exchange [effect] s = ([(effect, f (call s).1)], (call s).2))
    (hR : ∀ w v, R w v → ∀ server server', R (w.asked effect server) (v.asked effect server'))
    (hQ : ∀ a b, Reply.eventless (effect, f a) = Reply.eventless (effect, f b) → Q a b) :
    Answered ctx R Q (perform effect call) (perform effect call) := by
  have hasked (w : World σ) : World.Exchanged ctx [effect] w (perform effect call w).2 :=
    ⟨rfl, by rw [hf]; rfl⟩
  refine ⟨fun w => ⟨_, hasked w⟩, fun v => ⟨_, hasked v⟩, fun w v hwv hcalls => ?_⟩
  rw [(hasked w).calls_eq, (hasked v).calls_eq, hf, hf] at hcalls
  exact ⟨hQ _ _ hcalls.single, hR w v hwv _ _, _, hasked w, hasked v⟩

end Answered

/-- Acts that do alike as long as they are answered alike. -/
def Coupling.answered (ctx : Context σ) (R : World σ → World σ → Prop) : Coupling σ where
  Holds := Answered ctx R
  of_pure h := .of_silent (silent_pure _) (silent_pure _) fun _ _ hwv => ⟨h, hwv⟩
  of_bind := .bind

end Act

open Act

/-- **Messages are carried as long as they are answered alike**, where worlds stay alike whatever is
asked of their homeservers.  The events of rules are not seen. -/
theorem World.Akin.answered_carries {R : World σ → World σ → Prop}
    (h : World.Akin (fun _ => "") R)
    (hasked : ∀ w v, R w v → ∀ effect server server',
      R (w.asked effect server) (v.asked effect server')) (moment' : Nat → Moment) :
    Carries ctx moment' (fun _ => "") (.answered ctx R) where
  perform {_ effect _} hc he := by
    obtain ⟨f, hf, hexchange⟩ := hc.exchange_eq
    refine .call hexchange (fun w v hwv => hasked w v hwv effect) fun a b hab => hf ?_
    cases effect with
    | publish => cases he
    | _ => exact congrArg Prod.snd hab
  membership hnext := .get h.membership (fun _ => rfl) hnext
  store hnext := .get h.store (fun _ => rfl) hnext
  entry e a he := .of_silent (fun _ => ⟨rfl, rfl⟩) (fun _ => ⟨rfl, rfl⟩) (h.entry e a he)
  publish m p := by
    refine .call (f := .text) (fun s => rfl) (fun w v hwv => hasked w v hwv _) fun a b hab => ?_
    cases a <;> cases b <;> simp_all [Reply.eventless, Except.map]
  settle m p actor answer answer' hanswer :=
    .of_silent (silent_settle m p actor answer) (silent_settle m p actor answer')
      (h.settle m p actor hanswer)
  ingest r := .of_silent (silent_takePolicy r) (silent_takePolicy r) (h.ingest r)

end Moderation

import Moderation.Proofs.Homeserver.Answers
/-!
# Acts, one after another

The laws by which acts are run, and how two acts are compared.  A **coupling** (`Act.Coupling`) says
when two acts do alike; it is given by two rules, one for an act that only has a result and one for
an act after another.  Most couplings come from a relation of worlds, which the acts keep
(`Act.Coupling.ofWorlds`): with one and the same world on both sides they say what a single act
preserves (`Act.Preserves`).
-/

namespace Moderation

variable {σ α β : Type}

/-- The world after something was asked of the homeserver, which is in another state then. -/
def World.asked (w : World σ) (effect : Effect) (server : σ) : World σ :=
  { w with server, effects := w.effects ++ [effect] }

/-- The world after a notice was shown. -/
def World.shown (ctx : Context σ) (text : String) (w : World σ) : World σ :=
  w.asked (.notice text) (ctx.homeserver.notice text w.server).2

namespace Act

theorem pure_apply (a : α) (w : World σ) : (pure a : Act σ α) w = (a, w) := rfl

theorem bind_apply (act : Act σ α) (next : α → Act σ β) (w : World σ) :
    (act >>= next) w = next (act w).1 (act w).2 := rfl

theorem get_apply (w : World σ) : (get : Act σ (World σ)) w = (w, w) := rfl

theorem modify_apply (f : World σ → World σ) (w : World σ) :
    (modify f : Act σ Unit) w = ((), f w) := rfl

theorem perform_apply (effect : Effect) (call : StateM σ α) (w : World σ) :
    perform effect call w = ((call w.server).1, w.asked effect (call w.server).2) := rfl

theorem moment_apply (ctx : Context σ) (w : World σ) :
    moment ctx w = (ctx.moment w.ticks, { w with ticks := w.ticks + 1 }) := rfl

theorem audit_apply (entry : AuditEntry) (w : World σ) :
    audit entry w = ((), { w with audit := w.audit.append entry }) :=
  rfl

/-- A way to compare two acts that goes through them step by step. -/
structure Coupling (σ : Type) where
  /-- Two acts do alike, and come to results in a relation. -/
  Holds : {α : Type} → (α → α → Prop) → Act σ α → Act σ α → Prop
  of_pure : ∀ {α : Type} {Q : α → α → Prop} {a b : α}, Q a b → Holds Q (pure a) (pure b)
  of_bind : ∀ {α β : Type} {Q : α → α → Prop} {T : β → β → Prop} {act act' : Act σ α}
    {next next' : α → Act σ β}, Holds Q act act' → (∀ a, Q a a) →
    (∀ a b, Q a b → Holds T (next a) (next' b)) → Holds T (act >>= next) (act' >>= next')

namespace Coupling

variable {K : Coupling σ}

namespace Holds

variable {act act' other other' : Act σ α}

theorem pure (a : α) : K.Holds Eq (pure a : Act σ α) (pure a) := K.of_pure rfl

theorem bind {Q : β → β → Prop} {next next' : α → Act σ β} (h : K.Holds Eq act act')
    (hnext : ∀ a, K.Holds Q (next a) (next' a)) : K.Holds Q (act >>= next) (act' >>= next') :=
  K.of_bind h (fun _ => rfl) fun a _ hab => hab ▸ hnext a

theorem map {Q : α → α → Prop} {T : β → β → Prop} {f : α → β} (h : K.Holds Q act act')
    (hQ : ∀ a, Q a a) (hf : ∀ a b, Q a b → T (f a) (f b)) : K.Holds T (f <$> act) (f <$> act') := by
  rw [map_eq_pure_bind, map_eq_pure_bind]
  exact K.of_bind h hQ fun a b hab => K.of_pure (hf a b hab)

theorem ite {Q : α → α → Prop} {c : Prop} [Decidable c] (h : K.Holds Q act act')
    (hother : K.Holds Q other other') :
    K.Holds Q (if c then act else other) (if c then act' else other') := by
  split
  · exact h
  · exact hother

theorem forM {act act' : α → Act σ PUnit} (h : ∀ a, K.Holds Eq (act a) (act' a)) (l : List α) :
    K.Holds Eq (l.forM act) (l.forM act') := by
  induction l with
  | nil => exact pure ()
  | cons a l ih => exact (h a).bind fun _ => ih

theorem mapM {act act' : α → Act σ β} (h : ∀ a, K.Holds Eq (act a) (act' a)) (l : List α) :
    K.Holds Eq (l.mapM act) (l.mapM act') := by
  induction l with
  | nil => exact pure []
  | cons a l ih =>
    rw [List.mapM_cons, List.mapM_cons]
    exact (h a).bind fun b => ih.bind fun bs => pure (b :: bs)

end Holds

/-- To look at the world is to go on with one of two worlds in a relation. -/
def Sees (K : Coupling σ) (P : World σ → World σ → Prop) : Prop :=
  ∀ {α : Type} {Q : α → α → Prop} {next next' : World σ → Act σ α},
    (∀ w v, P w v → K.Holds Q (next w) (next' v)) → K.Holds Q (get >>= next) (get >>= next')

/-- Acts that lead from worlds in a relation to worlds in that relation. -/
def ofWorlds (R : World σ → World σ → Prop) : Coupling σ where
  Holds Q act act' := ∀ w v, R w v → Q (act w).1 (act' v).1 ∧ R (act w).2 (act' v).2
  of_pure h _ _ hwv := ⟨h, hwv⟩
  of_bind h _ hnext w v hwv := by
    obtain ⟨hresult, hafter⟩ := h w v hwv
    exact hnext _ _ hresult _ _ hafter

theorem ofWorlds_sees {R P : World σ → World σ → Prop} (h : ∀ w v, R w v → P w v) :
    (ofWorlds R).Sees P :=
  fun hnext w v hwv => hnext w v (h w v hwv) w v hwv

end Coupling

/-- An act preserves a property of worlds. -/
def Preserves (P : World σ → Prop) (act : Act σ α) : Prop := ∀ w, P w → P (act w).2

/-- What keeps one and the same world on both sides preserves what is known of it. -/
theorem Coupling.Holds.preserves {P : World σ → Prop} {Q : α → α → Prop} {act : Act σ α}
    (h : (Coupling.ofWorlds fun w v => w = v ∧ P w).Holds Q act act) : Preserves P act :=
  fun w hw => (h w w ⟨rfl, hw⟩).2.2

end Act
end Moderation

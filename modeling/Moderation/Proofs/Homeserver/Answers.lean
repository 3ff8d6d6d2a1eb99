import Mathlib.Logic.Function.Defs
import Moderation.Moderator.World
/-!
# What homeservers answer

Everything that is asked of a homeserver is a call (`Homeserver.ask`), and what is asked one after
another is an **exchange** (`Homeserver.exchange`).  Two states of a homeserver are **alike**
(`Homeserver.Alike`) when whatever is asked of it, and in whatever order, the answers are the same.

Two exchanges need not go on from states that are alike to be **answered alike** (`AnsweredAlike`).
That is said of the replies that did come, and only where both asked the same at the same place; and
the event that carries a rule, which a homeserver numbers as it likes, is left aside.
-/

namespace Moderation

/-- What a homeserver answers. -/
inductive Reply where
  | text (answer : Answer String)
  | done (answer : Answer Unit)
  | nothing

namespace Homeserver

variable {σ α : Type} (h : Homeserver σ)

/-- Asks something of a homeserver. -/
def ask : Effect → StateM σ Reply
  | .publish listRoom kind stateKey content => .text <$> h.publish listRoom kind stateKey content
  | .kick room user reason => .done <$> h.kick room user reason
  | .join room => .text <$> h.join room
  | .leave room => .done <$> h.leave room
  | .resolveAlias name => .text <$> h.resolveAlias name
  | .redact room user reason => .done <$> h.redact room user reason
  | .eventSender room event => .text <$> h.eventSender room event
  | .notice text => (fun _ => .nothing) <$> h.notice text
  | .react event => (fun _ => .nothing) <$> h.react event

/-- Asks things of a homeserver, one after the other: each with its reply, and the state
afterwards. -/
def exchange (h : Homeserver σ) : List Effect → σ → List (Effect × Reply) × σ
  | [], s => ([], s)
  | effect :: effects, s =>
    let (reply, s) := h.ask effect s
    let (rest, s) := h.exchange effects s
    ((effect, reply) :: rest, s)

theorem exchange_append (before after : List Effect) (s : σ) :
    h.exchange (before ++ after) s =
      ((h.exchange before s).1 ++ (h.exchange after (h.exchange before s).2).1,
        (h.exchange after (h.exchange before s).2).2) := by
  induction before generalizing s with
  | nil => rfl
  | cons effect before ih =>
    simp only [List.cons_append, exchange, ih]
    rfl

/-- Each reply belongs to what was asked. -/
theorem map_exchange (effects : List Effect) (s : σ) :
    (h.exchange effects s).1.map (·.1) = effects := by
  induction effects generalizing s with
  | nil => rfl
  | cons effect effects ih => exact congrArg (effect :: ·) (ih (h.ask effect s).2)

/-- Two states from which a homeserver gives the same answers, whatever is asked of it. -/
def Alike (s t : σ) : Prop :=
  ∀ effects : List Effect, (effects.mapM h.ask s).1 = (effects.mapM h.ask t).1

/-- A call is how a homeserver is asked for something. -/
def Serves (effect : Effect) (call : StateM σ α) : Prop :=
  ∃ f : α → Reply, Function.Injective f ∧ h.ask effect = f <$> call

section
variable {h} (room event user reason name text listRoom stateKey : String) (kind : EntityKind)
  (content : PolicyContent)

theorem serves_publish :
    h.Serves (.publish listRoom kind stateKey content) (h.publish listRoom kind stateKey content) :=
  ⟨.text, fun _ _ => Reply.text.inj, rfl⟩

theorem serves_kick : h.Serves (.kick room user reason) (h.kick room user reason) :=
  ⟨.done, fun _ _ => Reply.done.inj, rfl⟩

theorem serves_join : h.Serves (.join room) (h.join room) := ⟨.text, fun _ _ => Reply.text.inj, rfl⟩

theorem serves_leave : h.Serves (.leave room) (h.leave room) :=
  ⟨.done, fun _ _ => Reply.done.inj, rfl⟩

theorem serves_resolveAlias : h.Serves (.resolveAlias name) (h.resolveAlias name) :=
  ⟨.text, fun _ _ => Reply.text.inj, rfl⟩

theorem serves_redact : h.Serves (.redact room user reason) (h.redact room user reason) :=
  ⟨.done, fun _ _ => Reply.done.inj, rfl⟩

theorem serves_eventSender : h.Serves (.eventSender room event) (h.eventSender room event) :=
  ⟨.text, fun _ _ => Reply.text.inj, rfl⟩

theorem serves_notice : h.Serves (.notice text) (h.notice text) :=
  ⟨fun _ => .nothing, fun _ _ _ => rfl, rfl⟩

theorem serves_react : h.Serves (.react event) (h.react event) :=
  ⟨fun _ => .nothing, fun _ _ _ => rfl, rfl⟩

end

variable {h} {s t u : σ}

theorem Alike.refl (s : σ) : h.Alike s s := fun _ => rfl

theorem Alike.trans (hst : h.Alike s t) (htu : h.Alike t u) : h.Alike s u := fun effects =>
  (hst effects).trans (htu effects)

/-- States that are alike give the same answer to a call, and states that are alike after it. -/
theorem Alike.ask (hst : h.Alike s t) (effect : Effect) :
    (h.ask effect s).1 = (h.ask effect t).1 ∧ h.Alike (h.ask effect s).2 (h.ask effect t).2 := by
  have hcons (effects : List Effect) (s : σ) :
      ((effect :: effects).mapM h.ask s).1 =
        (h.ask effect s).1 :: (effects.mapM h.ask (h.ask effect s).2).1 := by
    rw [List.mapM_cons]
    rfl
  constructor
  · have heq := hst [effect]
    rw [hcons, hcons] at heq
    exact (List.cons.inj heq).1
  · intro effects
    have heq := hst (effect :: effects)
    rw [hcons, hcons] at heq
    exact (List.cons.inj heq).2

theorem Serves.alike {effect : Effect} {call : StateM σ α} (hc : h.Serves effect call)
    (hst : h.Alike s t) :
    (call s).1 = (call t).1 ∧ h.Alike (call s).2 (call t).2 := by
  obtain ⟨f, hf, hask⟩ := hc
  obtain ⟨hanswer, hnext⟩ := hst.ask effect
  rw [hask] at hanswer hnext
  exact ⟨hf hanswer, hnext⟩

theorem Serves.exchange_eq {effect : Effect} {call : StateM σ α} (hc : h.Serves effect call) :
    ∃ f : α → Reply, Function.Injective f ∧
      ∀ s, h.exchange [effect] s = ([(effect, f (call s).1)], (call s).2) := by
  obtain ⟨f, hf, hask⟩ := hc
  refine ⟨f, hf, fun s => ?_⟩
  simp only [exchange, hask]
  rfl

/-- A homeserver that grants whatever is asked of it. -/
def willing : Homeserver Unit where
  publish _ _ _ _ := pure (.ok "$event")
  kick _ _ _ := pure (.ok ())
  join room := pure (.ok room)
  leave _ := pure (.ok ())
  resolveAlias name := pure (.ok name)
  redact _ _ _ := pure (.ok ())
  eventSender _ _ := pure (.ok "@sender:example.org")
  notice _ := pure ()
  react _ := pure ()

end Homeserver

/-! ## Exchanges that are answered alike -/

/-- A call and its reply, but for the event that carries a rule. -/
def Reply.eventless : Effect × Reply → Effect × Reply
  | (.publish listRoom kind stateKey content, .text (.ok _)) =>
    (.publish listRoom kind stateKey content, .text (.ok ""))
  | call => call

/-- In two exchanges, where the same is asked at the same place, the replies say the same, but for
the events of rules. -/
def AnsweredAlike (calls calls' : List (Effect × Reply)) : Prop :=
  ∀ x ∈ calls.zip calls', x.1.1 = x.2.1 → Reply.eventless x.1 = Reply.eventless x.2

/-- The beginnings of lists are zipped first. -/
theorem mem_zip_append {α β : Type} {x : α × β} {as more : List α} {bs more' : List β}
    (hx : x ∈ as.zip bs) : x ∈ (as ++ more).zip (bs ++ more') := by
  induction as generalizing bs with
  | nil => cases hx
  | cons a as ih =>
    cases bs with
    | nil => cases hx
    | cons b bs =>
      rw [List.zip_cons_cons] at hx
      rw [List.cons_append, List.cons_append, List.zip_cons_cons, List.mem_cons]
      exact (List.mem_cons.1 hx).imp_right ih

namespace AnsweredAlike

variable {calls calls' more more' : List (Effect × Reply)}

theorem single {effect : Effect} {reply reply' : Reply}
    (h : AnsweredAlike [(effect, reply)] [(effect, reply')]) :
    Reply.eventless (effect, reply) = Reply.eventless (effect, reply') :=
  h _ List.mem_cons_self rfl

/-- Exchanges that are answered alike began so. -/
theorem left (h : AnsweredAlike (calls ++ more) (calls' ++ more')) : AnsweredAlike calls calls' :=
  fun x hx => h x (mem_zip_append hx)

/-- If they began with as many calls, they were answered alike after them. -/
theorem right (h : AnsweredAlike (calls ++ more) (calls' ++ more'))
    (hlength : calls.length = calls'.length) : AnsweredAlike more more' := by
  intro x hx
  refine h x ?_
  rw [List.zip_append hlength]
  exact List.mem_append_right _ hx

end AnsweredAlike

namespace Homeserver

/-- A homeserver whose replies do not depend on what it was asked before, but for the events of
rules. -/
def Steady (h : Homeserver σ) : Prop :=
  ∀ effect s t, Reply.eventless (effect, (h.ask effect s).1) =
    Reply.eventless (effect, (h.ask effect t).1)

/-- Any two exchanges with such a homeserver are answered alike. -/
theorem Steady.answeredAlike {h : Homeserver σ} (hsteady : h.Steady)
    (effects effects' : List Effect) (s t : σ) :
    AnsweredAlike (h.exchange effects s).1 (h.exchange effects' t).1 := by
  induction effects generalizing effects' s t with
  | nil => simp [exchange, AnsweredAlike]
  | cons effect effects ih =>
    cases effects' with
    | nil => simp [exchange, AnsweredAlike]
    | cons effect' effects' =>
      refine List.forall_mem_cons.2 ⟨?_, ih effects' _ _⟩
      rintro (rfl : effect = effect')
      exact hsteady effect s t

/-- A homeserver that grants whatever is asked of it, and numbers the events that it is sent. -/
def numbering : Homeserver Nat where
  publish _ _ _ _ n := (.ok ("$" ++ toString n), n + 1)
  kick _ _ _ n := (.ok (), n + 1)
  join room n := (.ok room, n + 1)
  leave _ n := (.ok (), n + 1)
  resolveAlias name n := (.ok name, n)
  redact _ _ _ n := (.ok (), n + 1)
  eventSender _ _ n := (.ok "@sender:example.org", n)
  notice _ n := ((), n + 1)
  react _ n := ((), n + 1)

theorem numbering_steady : numbering.Steady := by
  intro effect s t
  cases effect <;> rfl

end Homeserver
end Moderation

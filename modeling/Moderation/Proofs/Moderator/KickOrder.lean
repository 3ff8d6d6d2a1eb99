import Mathlib.Algebra.GroupWithZero.Nat
import Mathlib.Data.List.Basic
import Moderation.Moderator.KickSweep
/-!
# The order of kicks

However the answers of a homeserver are ordered, the kicks of one user come to the same
(`KickWindow.Sound.taken_eq`), and so do those of several (`KickSweep.Sound.over`).  The homeserver
sees each user kicked from each of its rooms, in order, and sees no kick of a user begin before the
kicks of all the users before it have ended (`KickSweep.Serial`).

Every event is a step towards the end (`KickSweep.Step.left`), and while the end is not reached one
can happen (`KickSweep.exists_step`).
-/

namespace Moderation

/-- The user and the room of a kick that begins. -/
def KickCall.begun? : KickCall → Option (String × String)
  | .begun user room => some (user, room)
  | .ended _ _ => none

namespace KickWindow

variable {limit : Nat} {answers : String → Answer Unit} {w w' : KickWindow} {e : KickEvent}

/-- What an event does to the kicks of a user. -/
inductive Step (limit : Nat) (answers : String → Answer Unit) (w : KickWindow) :
    KickEvent → KickWindow → Prop
  | begin {room : String} {rooms : List String} (hrooms : w.rooms = room :: rooms)
      (hfree : w.begun.length < max limit 1) :
    Step limit answers w .begin { w with rooms, begun := w.begun ++ [(room, none)] }
  | answer {room : String} {before after : List (String × Option (Answer Unit))}
      (hbegun : w.begun = before ++ (room, none) :: after) :
    Step limit answers w (.answer before.length)
      { w with begun := before ++ (room, some (answers room)) :: after }
  | take {room : String} {answer : Answer Unit} {begun : List (String × Option (Answer Unit))}
      (hbegun : w.begun = (room, some answer) :: begun) :
    Step limit answers w .take { w with begun, taken := w.taken ++ [(room, answer)] }

theorem step_cases (h : w.step limit answers e = some w') : Step limit answers w e w' := by
  cases e with
  | begin =>
    simp only [step] at h
    split at h
    · next hrooms =>
      split at h
      · next hfree =>
        obtain rfl := Option.some.inj h
        exact .begin hrooms hfree
      · cases h
    · cases h
  | answer position =>
    simp only [step] at h
    split at h
    · next room hget =>
      obtain rfl := Option.some.inj h
      obtain ⟨hlt, hroom⟩ := List.getElem?_eq_some_iff.1 hget
      obtain ⟨before, after, hbegun, rfl, hset⟩ :=
        @List.exists_of_set _ _ (room, some (answers room)) _ hlt
      rw [hset]
      exact .answer (hroom ▸ hbegun)
    · cases h
  | take =>
    simp only [step] at h
    split at h
    · next hbegun =>
      obtain rfl := Option.some.inj h
      exact .take hbegun
    · cases h

/-- While the answers of some rooms have not been taken something can happen. -/
theorem exists_step (limit : Nat) (answers : String → Answer Unit) (h : w.isOver = false) :
    ∃ e, (w.step limit answers e).isSome = true := by
  match hbegun : w.begun with
  | (room, some answer) :: begun => exact ⟨.take, by simp [step, hbegun]⟩
  | (room, none) :: begun => exact ⟨.answer 0, by simp [step, hbegun]⟩
  | [] =>
    match hrooms : w.rooms with
    | room :: rooms =>
      have hfree : w.begun.length < max limit 1 := by
        rw [hbegun]
        exact Nat.lt_of_lt_of_le Nat.zero_lt_one (Nat.le_max_right limit 1)
      exact ⟨.begin, by simp [step, hrooms, hfree]⟩
    | [] => simp [isOver, hbegun, hrooms] at h

/-- What is known of the kicks of a user: the answers are those of the rooms, and no more kicks than
the limit have begun without their answers being taken. -/
structure Sound (limit : Nat) (answers : String → Answer Unit) (w : KickWindow) : Prop where
  taken : ∀ x ∈ w.taken, x.2 = answers x.1
  answered : ∀ room answer, (room, some answer) ∈ w.begun → answer = answers room
  bounded : w.begun.length ≤ max limit 1

theorem sound_start (rooms : List String) : Sound limit answers { rooms } where
  taken := by simp
  answered := by simp
  bounded := Nat.zero_le _

/-- **When all is over the answers are those of the rooms, in order.** -/
theorem Sound.taken_eq (h : Sound limit answers w) (hover : w.isOver = true) :
    w.taken = (w.calls ++ w.rooms).map fun room => (room, answers room) := by
  obtain ⟨hrooms, hbegun⟩ : w.rooms = [] ∧ w.begun = [] := by simpa [isOver] using hover
  have htaken : w.taken.map id = w.taken.map fun x => (x.1, answers x.1) :=
    List.map_congr_left fun x hx => Prod.ext rfl (h.taken x hx)
  simpa [calls, hrooms, hbegun, Function.comp_def] using htaken

/-- The answer of a room has come. -/
def Answered (w : KickWindow) (room : String) : Prop :=
  room ∈ w.taken.map (·.1) ∨ ∃ answer, (room, some answer) ∈ w.begun

theorem answered_of_isOver (h : w.isOver = true) {room : String}
    (hroom : room ∈ w.calls ++ w.rooms) : w.Answered room := by
  obtain ⟨hrooms, hbegun⟩ : w.rooms = [] ∧ w.begun = [] := by simpa [isOver] using h
  exact .inl (by simpa [calls, hrooms, hbegun] using hroom)

/-- How many events it takes until the answers of all rooms have been taken. -/
def left (w : KickWindow) : Nat :=
  3 * w.rooms.length + (w.begun.map fun x => if x.2.isSome then 1 else 2).sum

namespace Step

variable (h : Step limit answers w e w')
include h

theorem sound (hw : Sound limit answers w) : Sound limit answers w' := by
  cases h with
  | begin hrooms hfree =>
    refine ⟨hw.taken, fun room answer hmem => hw.answered room answer ?_, ?_⟩
    · simpa using hmem
    · rw [List.length_append]
      exact hfree
  | @answer room before after hbegun =>
    have hlength := hw.bounded
    refine ⟨hw.taken, fun room' answer hmem => ?_, by simpa [hbegun] using hlength⟩
    rcases List.mem_append.1 hmem with hmem | hmem
    · exact hw.answered room' answer (hbegun ▸ List.mem_append_left _ hmem)
    · rcases List.mem_cons.1 hmem with heq | hmem
      · simp only [Prod.mk.injEq, Option.some.injEq] at heq
        rw [heq.1, heq.2]
      · exact hw.answered room' answer
          (hbegun ▸ List.mem_append_right _ (List.mem_cons_of_mem _ hmem))
  | take hbegun =>
    have hlength := hw.bounded
    rw [hbegun] at hlength
    refine ⟨fun x hx => ?_, fun room answer hmem => hw.answered room answer ?_, ?_⟩
    · rcases List.mem_append.1 hx with hx | hx
      · exact hw.taken x hx
      · rw [List.mem_singleton.1 hx]
        exact hw.answered _ _ (hbegun ▸ List.mem_cons_self)
    · rw [hbegun]
      exact List.mem_cons_of_mem _ hmem
    · exact Nat.le_of_succ_le hlength

/-- The rooms stay the same, in order. -/
theorem rooms_eq : w'.calls ++ w'.rooms = w.calls ++ w.rooms := by
  cases h with
  | begin hrooms => simp [calls, hrooms]
  | answer hbegun | take hbegun => simp [calls, hbegun]

/-- The homeserver sees the kick begin that is begun. -/
theorem calls_eq (user : String) :
    w'.calls.map (user, ·) =
      w.calls.map (user, ·) ++ (w.call? user e).toList.filterMap KickCall.begun? := by
  cases h with
  | begin hrooms => simp [calls, call?, hrooms, KickCall.begun?]
  | answer hbegun => simp [calls, call?, hbegun, KickCall.begun?]
  | take hbegun => simp [calls, call?, hbegun]

/-- The homeserver sees the kick end whose answer comes. -/
theorem answered (user : String) {room : String} (hroom : w'.Answered room) :
    w.Answered room ∨ w.call? user e = some (.ended user room) := by
  cases h with
  | begin hrooms => exact .inl (by simpa [Answered] using hroom)
  | answer hbegun =>
    simp only [Answered, call?, hbegun] at hroom ⊢
    grind
  | take hbegun =>
    simp only [Answered, call?, hbegun] at hroom ⊢
    grind

theorem left : w'.left + 1 = w.left := by
  cases h with
  | begin hrooms =>
    simp [KickWindow.left, hrooms]
    omega
  | answer hbegun =>
    simp [KickWindow.left, hbegun]
    omega
  | take hbegun =>
    simp [KickWindow.left, hbegun]
    omega

end Step

end KickWindow
/-! ## Several users -/

namespace KickSweep

variable {limit : Nat} {dryRun : Bool} {answers : String → String → Answer Unit}
  {s s' : KickSweep} {e : SweepEvent}

/-- What an event does to the kicks of several users. -/
inductive Step (limit : Nat) (dryRun : Bool) (answers : String → String → Answer Unit)
    (s : KickSweep) : SweepEvent → KickSweep → Prop
  | start {user : String} {rooms : List String} {users : List (String × List String)}
      (hcurrent : s.current = none) (husers : s.users = (user, rooms) :: users) :
    Step limit dryRun answers s .start { s with users, current := some (user, { rooms }) }
  | kick {user : String} {window next : KickWindow} {e : KickEvent}
      (hcurrent : s.current = some (user, window))
      (hstep : window.Step limit (answer dryRun answers user) e next) :
    Step limit dryRun answers s (.kick e)
      { s with
        current := some (user, next)
        calls := s.calls ++ if dryRun then [] else (window.call? user e).toList }
  | finish {user : String} {window : KickWindow} (hcurrent : s.current = some (user, window))
      (hover : window.isOver = true) :
    Step limit dryRun answers s .finish
      { s with current := none, outcomes := s.outcomes ++ [.ofAnswers user window.taken] }

theorem step_cases (h : s.step limit dryRun answers e = some s') :
    Step limit dryRun answers s e s' := by
  cases e with
  | start =>
    simp only [step] at h
    split at h
    · next hcurrent husers =>
      obtain rfl := Option.some.inj h
      exact .start hcurrent husers
    · cases h
  | kick e =>
    simp only [step] at h
    split at h
    · next hcurrent =>
      obtain ⟨next, hnext, rfl⟩ := Option.map_eq_some_iff.1 h
      exact .kick hcurrent (KickWindow.step_cases hnext)
    · cases h
  | finish =>
    simp only [step] at h
    split at h
    · next hcurrent =>
      split at h
      · next hover =>
        obtain rfl := Option.some.inj h
        exact .finish hcurrent hover
      · cases h
    · cases h

/-- While some users have not been kicked something can happen. -/
theorem exists_step (limit : Nat) (dryRun : Bool) (answers : String → String → Answer Unit)
    (h : s.isOver = false) : ∃ e, (s.step limit dryRun answers e).isSome = true := by
  match hcurrent : s.current with
  | some (user, window) =>
    cases hover : window.isOver with
    | true => exact ⟨.finish, by simp [step, hcurrent, hover]⟩
    | false =>
      obtain ⟨e, he⟩ := KickWindow.exists_step limit (answer dryRun answers user) hover
      exact ⟨.kick e, by simpa [step, hcurrent] using he⟩
  | none =>
    match husers : s.users with
    | (user, rooms) :: users => exact ⟨.start, by simp [step, hcurrent, husers]⟩
    | [] => simp [isOver, hcurrent, husers] at h

/-! ### How much there is to do -/

/-- How many events it takes until all users have been kicked. -/
def left (s : KickSweep) : Nat :=
  (s.users.map fun x => 3 * x.2.length + 2).sum +
    match s.current with
    | some (_, window) => window.left + 1
    | none => 0

theorem Step.left (h : Step limit dryRun answers s e s') : s'.left + 1 = s.left := by
  cases h with
  | start hcurrent husers =>
    simp [KickSweep.left, KickWindow.left, hcurrent, husers]
    omega
  | kick hcurrent hstep =>
    have hwindow := hstep.left
    simp [KickSweep.left, hcurrent]
    omega
  | @finish user window hcurrent hover =>
    have hwindow : window.left = 0 := by
      obtain ⟨hrooms, hbegun⟩ : window.rooms = [] ∧ window.begun = [] := by
        simpa [KickWindow.isOver] using hover
      simp [KickWindow.left, hrooms, hbegun]
    simp [KickSweep.left, hcurrent, hwindow]

/-! ### What comes of the users -/

/-- What comes of a user in some rooms. -/
def outcome (dryRun : Bool) (answers : String → String → Answer Unit)
    (x : String × List String) : KickOutcome :=
  .ofAnswers x.1 (x.2.map fun room => (room, answer dryRun answers x.1 room))

/-- The user whose kicks are under way, with its rooms. -/
def under (s : KickSweep) : List (String × List String) :=
  s.current.toList.map fun x => (x.1, x.2.calls ++ x.2.rooms)

/-- The kicks that have begun of the user whose kicks are under way. -/
def underCalls (s : KickSweep) : List (String × String) :=
  s.current.toList.flatMap fun x => x.2.calls.map (x.1, ·)

/-- No kick of a user begins before the kicks of all the users before it have ended. -/
def Serial (all : List (String × List String)) (calls : List KickCall) : Prop :=
  ∀ before after user room, calls = before ++ .begun user room :: after →
    ∀ x ∈ all, x.1 < user → ∀ room' ∈ x.2, .ended x.1 room' ∈ before

theorem Serial.concat {all : List (String × List String)} {calls : List KickCall} {call : KickCall}
    (h : Serial all calls)
    (hcall : ∀ user room, call = .begun user room →
      ∀ x ∈ all, x.1 < user → ∀ room' ∈ x.2, .ended x.1 room' ∈ calls) :
    Serial all (calls ++ [call]) := by
  intro before after user room heq
  rcases List.eq_nil_or_concat after with rfl | ⟨rest, last, rfl⟩
  · obtain ⟨rfl, hlast⟩ := List.append_inj' heq rfl
    exact hcall user room (List.singleton_inj.1 hlast)
  · rw [List.concat_eq_append, ← List.cons_append, ← List.append_assoc] at heq
    exact h before rest user room (List.append_inj' heq rfl).1

/-- What the homeserver has seen, when the kicks of some users are done. -/
structure Seen (all done : List (String × List String)) (s : KickSweep) : Prop where
  begun : s.calls.filterMap KickCall.begun? =
    (done.flatMap fun x => x.2.map (x.1, ·)) ++ s.underCalls
  ended : ∀ x ∈ done, ∀ room ∈ x.2, .ended x.1 room ∈ s.calls
  answered : ∀ user window, s.current = some (user, window) → ∀ room, window.Answered room →
    .ended user room ∈ s.calls
  serial : Serial all s.calls

/-- What is known of the kicks of several users, when those of some are done. -/
structure Sound (limit : Nat) (dryRun : Bool) (answers : String → String → Answer Unit)
    (all done : List (String × List String)) (s : KickSweep) : Prop where
  all_eq : all = done ++ s.under ++ s.users
  outcomes : s.outcomes = done.map (outcome dryRun answers)
  window : ∀ user window, s.current = some (user, window) →
    window.Sound limit (answer dryRun answers user)
  silent : dryRun = true → s.calls = []
  seen : dryRun = false → Seen all done s

theorem sound_start (all : List (String × List String)) :
    Sound limit dryRun answers all [] { users := all } where
  all_eq := rfl
  outcomes := rfl
  window := by simp
  silent := fun _ => rfl
  seen := fun _ =>
    { begun := rfl
      ended := by simp
      answered := by simp
      serial := by simp [Serial] }

section
variable {all done : List (String × List String)} (hall : all.Pairwise fun x y => x.1 < y.1)
  (h : Sound limit dryRun answers all done s)
include h

/-- **When all is over each user has its outcome**, and the homeserver has seen each user kicked
from each of its rooms, or nothing at all. -/
theorem Sound.over (hover : s.isOver = true) :
    s.outcomes = all.map (outcome dryRun answers) ∧
      s.calls.filterMap KickCall.begun? =
        if dryRun then [] else all.flatMap fun x => x.2.map (x.1, ·) := by
  obtain ⟨husers, hcurrent⟩ : s.users = [] ∧ s.current = none := by simpa [isOver] using hover
  have hdone : all = done := by simpa [under, husers, hcurrent] using h.all_eq
  refine ⟨hdone ▸ h.outcomes, ?_⟩
  cases hdry : dryRun with
  | true => simp [h.silent hdry]
  | false => simp [(h.seen hdry).begun, underCalls, hcurrent, hdone]

theorem Sound.start {user : String} {rooms : List String} {users : List (String × List String)}
    (hcurrent : s.current = none) (husers : s.users = (user, rooms) :: users) :
    Sound limit dryRun answers all done { s with users, current := some (user, { rooms }) } where
  all_eq := by simp [h.all_eq, under, hcurrent, husers, KickWindow.calls]
  outcomes := h.outcomes
  window := by
    rintro _ _ ⟨⟩
    exact KickWindow.sound_start rooms
  silent := h.silent
  seen := fun hdry =>
    { begun := by simp [(h.seen hdry).begun, underCalls, hcurrent, KickWindow.calls]
      ended := (h.seen hdry).ended
      answered := by
        rintro _ _ ⟨⟩ room hroom
        simp [KickWindow.Answered] at hroom
      serial := (h.seen hdry).serial }

theorem Sound.finish {user : String} {window : KickWindow}
    (hcurrent : s.current = some (user, window)) (hover : window.isOver = true) :
    Sound limit dryRun answers all (done ++ s.under)
      { s with current := none, outcomes := s.outcomes ++ [.ofAnswers user window.taken] } where
  all_eq := by simp [h.all_eq, under, hcurrent]
  outcomes := by
    have htaken := (h.window user window hcurrent).taken_eq hover
    simp [h.outcomes, under, hcurrent, outcome, htaken]
  window := by simp
  silent := h.silent
  seen := fun hdry =>
    { begun := by
        have hrooms : window.rooms = [] := by
          simp only [KickWindow.isOver, Bool.and_eq_true, List.isEmpty_iff] at hover
          exact hover.1
        simp [(h.seen hdry).begun, underCalls, under, hcurrent, hrooms]
      ended := by
        intro x hx room hroom
        rcases List.mem_append.1 hx with hx | hx
        · exact (h.seen hdry).ended x hx room hroom
        · obtain rfl : x = (user, window.calls ++ window.rooms) := by
            simpa [under, hcurrent] using hx
          exact (h.seen hdry).answered user window hcurrent room
            (KickWindow.answered_of_isOver hover hroom)
      answered := by simp
      serial := (h.seen hdry).serial }

include hall

/-- The users before the one whose kicks are under way are done. -/
theorem Sound.mem_done {user : String} {window : KickWindow}
    (hcurrent : s.current = some (user, window)) {x : String × List String} (hx : x ∈ all)
    (hlt : x.1 < user) : x ∈ done := by
  rw [h.all_eq] at hall hx
  have hunder : s.under = [(user, window.calls ++ window.rooms)] := by simp [under, hcurrent]
  rw [hunder] at hall hx
  rcases List.mem_append.1 hx with hx | hx
  · rcases List.mem_append.1 hx with hx | hx
    · exact hx
    · rw [List.mem_singleton.1 hx] at hlt
      exact absurd hlt (String.lt_irrefl user)
  · have hafter : user < x.1 :=
      (List.pairwise_append.1 hall).2.2 (user, window.calls ++ window.rooms) (by simp) x hx
    exact absurd (String.lt_trans hlt hafter) (String.lt_irrefl _)

theorem Sound.kick {user : String} {window next : KickWindow} {e : KickEvent}
    (hcurrent : s.current = some (user, window))
    (hstep : window.Step limit (answer dryRun answers user) e next) :
    Sound limit dryRun answers all done
      { s with
        current := some (user, next)
        calls := s.calls ++ if dryRun then [] else (window.call? user e).toList } where
  all_eq := by simp [h.all_eq, under, hcurrent, hstep.rooms_eq]
  outcomes := h.outcomes
  window := by
    rintro _ _ ⟨⟩
    exact hstep.sound (h.window user window hcurrent)
  silent := by
    intro hdry
    simp [h.silent hdry, hdry]
  seen := by
    intro hdry
    have hseen := h.seen hdry
    simp only [hdry, Bool.false_eq_true, if_false]
    refine ⟨?_, fun x hx room hroom => ?_, ?_, ?_⟩
    · simp [hseen.begun, underCalls, hcurrent, hstep.calls_eq user]
    · exact List.mem_append_left _ (hseen.ended x hx room hroom)
    · rintro _ _ ⟨⟩ room hroom
      rcases hstep.answered user hroom with hroom | hcall
      · exact List.mem_append_left _ (hseen.answered user window hcurrent room hroom)
      · exact List.mem_append_right _ (by simp [hcall])
    · cases hcall : window.call? user e with
      | none => simpa using hseen.serial
      | some call =>
        refine hseen.serial.concat fun user' room heq x hx hlt room' hroom' => ?_
        -- Only the user whose kicks are under way can be seen to be kicked.
        obtain rfl : user' = user := by
          subst heq
          cases hstep <;> simp_all [KickWindow.call?]
        exact hseen.ended x (h.mem_done hall hcurrent hx hlt) room' hroom'

theorem Step.sound (hstep : Step limit dryRun answers s e s') :
    ∃ done', Sound limit dryRun answers all done' s' := by
  cases hstep with
  | start hcurrent husers => exact ⟨done, h.start hcurrent husers⟩
  | kick hcurrent hwindow => exact ⟨done, h.kick hall hcurrent hwindow⟩
  | finish hcurrent hover => exact ⟨_, h.finish hcurrent hover⟩

/-- **Whatever happens, the kicks stay sound**, and every event brings them nearer to their end. -/
theorem Sound.run {events : List SweepEvent} (hrun : s.run limit dryRun answers events = some s') :
    (∃ done', Sound limit dryRun answers all done' s') ∧ events.length + s'.left = s.left := by
  induction events generalizing s done with
  | nil =>
    obtain rfl := Option.some.inj hrun
    exact ⟨⟨done, h⟩, Nat.zero_add _⟩
  | cons e events ih =>
    have hbind : (s.step limit dryRun answers e).bind (·.run limit dryRun answers events) =
        some s' := hrun
    obtain ⟨next, hnext, hrest⟩ := Option.bind_eq_some_iff.1 hbind
    have hstep := step_cases hnext
    obtain ⟨done', h'⟩ := hstep.sound hall h
    obtain ⟨hsound, hleft⟩ := ih h' hrest
    have hnear := hstep.left
    exact ⟨hsound, by rw [List.length_cons]; omega⟩

end

end KickSweep
end Moderation

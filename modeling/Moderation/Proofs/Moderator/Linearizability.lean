import Moderation.Proofs.Moderator.Concurrency
import Moderation.Proofs.Moderator.Operations
import Moderation.Proofs.Store.Undated
/-!
# Operations on one list and one entity are linearizable

Operations on one list and one entity that take their steps in any order could as well have been
carried out one after another: in some order each comes to the same result, the same is published in
the same order, and the store is the same in the end (`Interleaving.linearizable`).

An operation takes its place in that order when its publication is settled, or when it is refused;
a report may be refused before it has a lock.  The publication that is settled was planned earlier,
but since then only the one who holds the lock could have changed the store, and that is the
operation itself.  `Interleaving.Linearized` is the invariant: the operations that have taken their
places account for the store, and for all that was sent but what is still to be settled.
-/

namespace Moderation

variable {σ : Type} {ctx : Context σ} {listRoom entity : String}

/-- What came of a mutation whose place in the order is taken. -/
def Phase.result? : Phase → Option (Except MutationFailure Published)
  | .settled result => some result
  | .over result => some result
  | _ => none

/-- What was sent and is still to be settled. -/
def Phase.unsettled? : Phase → Option Publication
  | .answered p _ => some p
  | _ => none

theorem Phase.unsettled?_of_not_holdsLock {phase : Phase} (h : phase.holdsLock = false) :
    phase.unsettled? = none := by
  cases phase with
  | answered => cases h
  | _ => rfl

/-- Carries out operations, one after another. -/
def Operation.runAll (order : List (Operation ctx listRoom entity)) : Act σ (List ChangeResult) :=
  order.mapM Operation.run

theorem Operation.runAll_concat (order : List (Operation ctx listRoom entity))
    (o : Operation ctx listRoom entity) (w : World σ) :
    runAll (order ++ [o]) w =
      ((runAll order w).1 ++ [(o.run (runAll order w).2).1], (o.run (runAll order w).2).2) := by
  unfold runAll
  rw [List.mapM_append, List.mapM_cons, List.mapM_nil]
  rfl

/-- An operation that has come to some phase. -/
abbrev Progress (ctx : Context σ) (listRoom entity : String) :=
  Operation ctx listRoom entity × Phase

namespace Progress

variable (x : Progress ctx listRoom entity)

/-- The task of an operation. -/
def task : Task := x.1.task x.2

/-- An operation whose place is taken, with what came of its mutation. -/
def placed? : Option (Operation ctx listRoom entity × Except MutationFailure Published) :=
  x.2.result?.map (x.1, ·)

/-- Two operations do not both hold the lock. -/
def Apart (x y : Progress ctx listRoom entity) : Prop :=
  ¬(x.2.holdsLock = true ∧ y.2.holdsLock = true)

theorem Apart.symm {x y : Progress ctx listRoom entity} (h : Apart x y) : Apart y x :=
  fun hyx => h hyx.symm

/-- What an operation has asked to publish and not yet settled. -/
def unsettled? : Option Effect := x.2.unsettled?.map x.1.mutation.effect

end Progress

namespace Interleaving

/-- The publications that were sent, as they were asked of the homeserver. -/
def publications (s : Interleaving) : List Effect := s.sent.map fun (m, p) => m.effect p

/-- A mutation begins by waiting, unless it is refused already. -/
theorem begin_result (s : Interleaving) (watched : List String) (m : Mutation) :
    s.begin watched m = .waiting ∨ ∃ conflict,
      s.begin watched m = .over (.error (.conflict conflict)) ∧
        m.plan watched s.store = .error conflict := by
  unfold begin
  split
  · next reason hm =>
    cases hconflict : Decision.reportConflict (s.store.find (m.query watched)) m.entity with
    | ok _ => exact .inl rfl
    | error conflict =>
      exact .inr ⟨conflict, rfl, Mutation.plan_of_reportConflict hm hconflict⟩
  · exact .inl rfl

/-- The operations of an interleaving do not get in each other's way: at most one holds the lock,
and what has been planned would be planned now. -/
structure Orderly (progress : List (Progress ctx listRoom entity)) (s : Interleaving) : Prop where
  tasks : s.tasks = progress.map Progress.task
  apart : progress.Pairwise Progress.Apart
  planned : ∀ x ∈ progress, ∀ p, x.2.publication? = some p →
    x.1.mutation.plan ctx.watched s.store = .ok p
  answered : ∀ x ∈ progress, ∀ p answer, x.2 = .answered p answer → answer = x.1.answer

namespace Orderly

variable {progress before after : List (Progress ctx listRoom entity)}
  {o : Operation ctx listRoom entity} {phase phase' : Phase} {s s' : Interleaving}

/-- Nobody else holds the lock of an operation that holds it. -/
theorem others_of_holdsLock (h : Orderly (before ++ (o, phase) :: after) s)
    (hl : phase.holdsLock = true) : ∀ x ∈ before ++ after, x.2.holdsLock = false := by
  have hapart := (List.pairwise_middle Progress.Apart.symm).1 h.apart
  intro x hx
  have hnot := (List.pairwise_cons.1 hapart).1 x hx
  simpa [Progress.Apart, hl] using hnot

/-- Nobody holds a lock that is free. -/
theorem none_of_free (h : Orderly progress s) (hfree : s.isHeld { listRoom, entity } = false) :
    ∀ x ∈ progress, x.2.holdsLock = false := by
  intro x hx
  have hnot := List.any_eq_false.1 hfree x.task (by rw [h.tasks]; exact List.mem_map_of_mem hx)
  have hkey : x.task.lockKey = { listRoom, entity } := x.1.lockKey_task x.2
  have hphase : x.task.phase = x.2 := rfl
  simpa [Task.holds, hkey, hphase] using hnot

/-- Nothing is unsettled but what the operation that holds the lock has sent. -/
theorem filterMap_unsettled? (hothers : ∀ x ∈ before ++ after, x.2.holdsLock = false) :
    (before ++ (o, phase) :: after).filterMap Progress.unsettled? =
      (Progress.unsettled? (o, phase)).toList := by
  have hnone {l : List (Progress ctx listRoom entity)} (hl : ∀ x ∈ l, x ∈ before ++ after) :
      l.filterMap Progress.unsettled? = [] := by
    refine List.filterMap_eq_nil_iff.2 fun x hx => ?_
    have hphase := Phase.unsettled?_of_not_holdsLock (hothers x (hl x hx))
    unfold Progress.unsettled?
    rw [hphase]
    rfl
  rw [List.filterMap_append, List.filterMap_cons,
    hnone fun x hx => List.mem_append_left _ hx, hnone fun x hx => List.mem_append_right _ hx]
  cases Progress.unsettled? (o, phase) <;> rfl

/-- **An operation may go on** to a phase that keeps to the lock and whose plan holds; it may change
the store if nobody else holds the lock. -/
theorem go (h : Orderly (before ++ (o, phase) :: after) s)
    (htasks : s'.tasks = (before ++ (o, phase') :: after).map Progress.task)
    (hstore : s'.store = s.store ∨ ∀ x ∈ before ++ after, x.2.holdsLock = false)
    (hlock : phase'.holdsLock = true → ∀ x ∈ before ++ after, x.2.holdsLock = false)
    (hplanned : ∀ p, phase'.publication? = some p →
      o.mutation.plan ctx.watched s'.store = .ok p)
    (hanswered : ∀ p answer, phase' = .answered p answer → answer = o.answer) :
    Orderly (before ++ (o, phase') :: after) s' where
  tasks := htasks
  apart := by
    have hapart := (List.pairwise_middle Progress.Apart.symm).1 h.apart
    refine (List.pairwise_middle Progress.Apart.symm).2 (List.pairwise_cons.2 ⟨?_, ?_⟩)
    · rintro x hx ⟨hphase', hother⟩
      rw [hlock hphase' x hx] at hother
      cases hother
    · exact (List.pairwise_cons.1 hapart).2
  planned := by
    intro x hx p hp
    rcases List.mem_cons.1 (List.perm_middle.mem_iff.1 hx) with rfl | hx
    · exact hplanned p hp
    · rcases hstore with hsame | hothers
      · rw [hsame]
        exact h.planned x (List.perm_middle.mem_iff.2 (List.mem_cons_of_mem _ hx)) p hp
      · have hholds := Phase.holdsLock_of_publication? hp
        rw [hothers x hx] at hholds
        cases hholds
  answered := by
    intro x hx p answer hphase
    rcases List.mem_cons.1 (List.perm_middle.mem_iff.1 hx) with rfl | hx
    · exact hanswered p answer hphase
    · exact h.answered x (List.perm_middle.mem_iff.2 (List.mem_cons_of_mem _ hx)) p answer hphase

/-- An operation may always go on to a phase in which it has nothing planned. -/
theorem go_unplanned (h : Orderly (before ++ (o, phase) :: after) s)
    (htasks : s'.tasks = (before ++ (o, phase') :: after).map Progress.task)
    (hstore : s'.store = s.store ∨ ∀ x ∈ before ++ after, x.2.holdsLock = false)
    (hlock : phase'.holdsLock = true → ∀ x ∈ before ++ after, x.2.holdsLock = false)
    (hnone : phase'.publication? = none) : Orderly (before ++ (o, phase') :: after) s' := by
  refine h.go htasks hstore hlock (fun p hp => ?_) fun p answer hphase => ?_
  · rw [hnone] at hp
    cases hp
  · rw [hphase] at hnone
    cases hnone

/-- The operation that takes a step stands somewhere among the others. -/
theorem exists_split (h : Orderly progress s) {i : Nat} {t : Task} (ht : s.tasks[i]? = some t) :
    ∃ before o phase after, progress = before ++ (o, phase) :: after ∧ t = o.task phase ∧
      ∀ phase', (s.move i t phase').tasks =
        (before ++ (o, phase') :: after).map Progress.task := by
  rw [h.tasks, List.getElem?_map] at ht
  obtain ⟨⟨o, phase⟩, hx, rfl⟩ := Option.map_eq_some_iff.1 ht
  obtain ⟨hi, hget⟩ := List.getElem?_eq_some_iff.1 hx
  refine ⟨progress.take i, o, phase, progress.drop (i + 1), ?_, rfl, fun phase' => ?_⟩
  · rw [← hget, List.getElem_cons_drop, List.take_append_drop]
  · have hset : progress.set i (o, phase') =
        progress.take i ++ (o, phase') :: progress.drop (i + 1) :=
      List.set_eq_take_append_cons_drop.trans (if_pos hi)
    unfold move
    rw [h.tasks, ← hset, List.map_set]
    rfl

end Orderly

/-- The operations that have taken their places, carried out one after another, account for an
interleaving. -/
structure Linearized (w : World σ)
    (order : List (Operation ctx listRoom entity × Except MutationFailure Published))
    (progress : List (Progress ctx listRoom entity)) (s : Interleaving) : Prop
    extends Orderly progress s where
  placed : order.Perm (progress.filterMap Progress.placed?)
  results : (Operation.runAll (order.map (·.1)) w).1 = order.map fun x => x.1.resultOf x.2
  store : (Operation.runAll (order.map (·.1)) w).2.store.undated = s.store.undated
  sent : w.publications ++ s.publications =
    (Operation.runAll (order.map (·.1)) w).2.publications ++
      progress.filterMap Progress.unsettled?

namespace Linearized

variable {w : World σ}
  {order : List (Operation ctx listRoom entity × Except MutationFailure Published)}
  {progress before after : List (Progress ctx listRoom entity)}
  {o : Operation ctx listRoom entity} {phase phase' : Phase} {s s' : Interleaving}

/-- An operation goes on to a phase in which it has its place, or has it not, as before. -/
theorem advance (h : Linearized w order (before ++ (o, phase) :: after) s)
    (ho : Orderly (before ++ (o, phase') :: after) s') (hstore : s'.store = s.store)
    (hresult : phase'.result? = phase.result?)
    (hsent : w.publications ++ s'.publications =
      (Operation.runAll (order.map (·.1)) w).2.publications ++
        (before ++ (o, phase') :: after).filterMap Progress.unsettled?) :
    Linearized w order (before ++ (o, phase') :: after) s' where
  toOrderly := ho
  placed := by
    have hplaced : Progress.placed? (o, phase') = Progress.placed? (o, phase) :=
      congrArg (Option.map (o, ·)) hresult
    have hperm := h.placed
    rw [List.filterMap_append, List.filterMap_cons] at hperm ⊢
    rw [hplaced]
    exact hperm
  results := h.results
  store := by
    rw [hstore]
    exact h.store
  sent := hsent

/-- An operation takes its place when it comes to a result that it would come to alone. -/
theorem place (h : Linearized w order (before ++ (o, phase) :: after) s)
    (ho : Orderly (before ++ (o, phase') :: after) s')
    {result : Except MutationFailure Published} (hphase : phase.result? = none)
    (hphase' : phase'.result? = some result)
    (hresult : (o.run (Operation.runAll (order.map (·.1)) w).2).1 = o.resultOf result)
    (hstore : (o.run (Operation.runAll (order.map (·.1)) w).2).2.store.undated =
      s'.store.undated)
    (hsent : w.publications ++ s'.publications =
      (o.run (Operation.runAll (order.map (·.1)) w).2).2.publications ++
        (before ++ (o, phase') :: after).filterMap Progress.unsettled?) :
    Linearized w (order ++ [(o, result)]) (before ++ (o, phase') :: after) s' where
  toOrderly := ho
  placed := by
    have hnot : Progress.placed? (o, phase) = none := congrArg (Option.map (o, ·)) hphase
    have hplaced : Progress.placed? (o, phase') = some (o, result) :=
      congrArg (Option.map (o, ·)) hphase'
    have hperm := h.placed
    rw [List.filterMap_append, List.filterMap_cons_none hnot] at hperm
    rw [List.filterMap_append, List.filterMap_cons_some hplaced]
    exact (List.perm_append_singleton _ _).trans ((hperm.cons _).trans List.perm_middle.symm)
  results := by
    rw [List.map_append, List.map_append, List.map_singleton, List.map_singleton,
      Operation.runAll_concat, h.results, hresult]
  store := by
    rw [List.map_append, List.map_singleton, Operation.runAll_concat]
    exact hstore
  sent := by
    rw [List.map_append, List.map_singleton, Operation.runAll_concat]
    exact hsent

/-- An operation whose mutation is refused takes its place. -/
theorem refuse (h : Linearized w order (before ++ (o, phase) :: after) s)
    (ho : Orderly (before ++ (o, phase') :: after) s') (hstore : s'.store = s.store)
    (hsent : s'.sent = s.sent) {conflict : Conflict}
    (hplan : o.mutation.plan ctx.watched s.store = .error conflict)
    (hphase : phase.result? = none) (hphase' : phase'.result? = some (.error (.conflict conflict)))
    (hunsettled : phase'.unsettled? = phase.unsettled?) :
    Linearized w (order ++ [(o, .error (.conflict conflict))]) (before ++ (o, phase') :: after)
      s' := by
  obtain ⟨hresult, hafter, hpublications⟩ :=
    Operation.run_refused ((o.mutation.plan_congr ctx.watched h.store).trans hplan)
  refine h.place ho hphase hphase' hresult ?_ ?_
  · rw [hafter, hstore]
    exact h.store
  · have hsame : Progress.unsettled? (o, phase') = Progress.unsettled? (o, phase) :=
      congrArg (Option.map o.mutation.effect) hunsettled
    have hbefore := h.sent
    rw [List.filterMap_append, List.filterMap_cons] at hbefore ⊢
    rw [hsame, hpublications, ← hbefore]
    unfold publications
    rw [hsent]

/-- An operation whose publication is settled takes its place. -/
theorem settle {p : Publication}
    (h : Linearized w order (before ++ (o, .answered p o.answer) :: after) s)
    (htasks : s'.tasks =
      (before ++ (o, .settled (Task.result p o.answer)) :: after).map Progress.task)
    (hstore : s'.store =
      if o.answer.toOption.isSome then
        o.mutation.recordIn p ctx.settings.botUser o.timestamp s.store
      else s.store)
    (hsent : s'.sent = s.sent) :
    Linearized w (order ++ [(o, Task.result p o.answer)])
      (before ++ (o, .settled (Task.result p o.answer)) :: after) s' := by
  have hothers := h.others_of_holdsLock rfl
  have hplan : o.mutation.plan ctx.watched s.store = .ok p :=
    h.planned (o, .answered p o.answer) (List.mem_append_right _ List.mem_cons_self) p rfl
  obtain ⟨hresult, ⟨timestamp, hafter⟩, hpublications⟩ :=
    Operation.run_planned ((o.mutation.plan_congr ctx.watched h.store).trans hplan)
  refine h.place ?_ rfl rfl hresult ?_ ?_
  · exact h.go_unplanned htasks (.inr hothers) (fun _ => hothers) rfl
  · rw [hafter, hstore]
    split
    · exact o.mutation.recordIn_congr p _ _ _ h.store
    · exact h.store
  · -- What was sent and not settled is what the operation publishes when it is carried out alone.
    have hbefore := h.sent
    rw [Orderly.filterMap_unsettled? hothers] at hbefore ⊢
    unfold publications at hbefore ⊢
    rw [hsent, hpublications, hbefore]
    exact (List.append_nil _).symm

/-- **A step keeps an interleaving linearized.** -/
theorem step (h : Linearized w order progress s) {i : Nat}
    (hs : s.step ctx.watched ctx.settings.botUser i = some s') :
    ∃ order' progress', Linearized w order' progress' s' ∧
      progress'.map (·.1) = progress.map (·.1) := by
  unfold Interleaving.step at hs
  obtain ⟨t, ht, hs⟩ := Option.bind_eq_some_iff.1 hs
  obtain ⟨before, o, phase, after, rfl, rfl, hmove⟩ := h.exists_split ht
  have hnames (phase' : Phase) :
      (before ++ (o, phase') :: after).map (·.1) = (before ++ (o, phase) :: after).map (·.1) := by
    simp
  have hsame {phase' : Phase} (hunsettled : phase'.unsettled? = phase.unsettled?) :
      w.publications ++ s.publications =
        (Operation.runAll (order.map (·.1)) w).2.publications ++
          (before ++ (o, phase') :: after).filterMap Progress.unsettled? := by
    have hsent := h.sent
    have heq : Progress.unsettled? (o, phase') = Progress.unsettled? (o, phase) :=
      congrArg (Option.map o.mutation.effect) hunsettled
    rw [List.filterMap_append, List.filterMap_cons] at hsent ⊢
    rw [heq]
    exact hsent
  have hself : (o, phase) ∈ before ++ (o, phase) :: after :=
    List.mem_append_right _ List.mem_cons_self
  cases phase with
  | idle =>
    have htask : (o.task .idle).mutation = o.mutation := rfl
    rcases s.begin_result ctx.watched o.mutation with hbegin | ⟨conflict, hbegin, hplan⟩
    · simp only [htask, hbegin] at hs
      obtain rfl := Option.some.inj hs
      have ho := h.go_unplanned (hmove .waiting) (.inl rfl) (fun hholds => by cases hholds) rfl
      exact ⟨_, _, h.advance ho rfl rfl (hsame rfl), hnames _⟩
    · simp only [htask, hbegin] at hs
      obtain rfl := Option.some.inj hs
      have ho := h.go_unplanned (hmove (.over (.error (.conflict conflict)))) (.inl rfl)
        (fun hholds => by cases hholds) rfl
      exact ⟨_, _, h.refuse ho rfl rfl hplan rfl rfl rfl, hnames _⟩
  | waiting =>
    have hlock : (if s.isHeld (o.task .waiting).lockKey then none
        else some (s.move i (o.task .waiting) .locked)) = some s' := hs
    rw [o.lockKey_task] at hlock
    cases hfree : s.isHeld { listRoom, entity } with
    | true =>
      rw [hfree] at hlock
      cases hlock
    | false =>
      rw [hfree] at hlock
      obtain rfl := Option.some.inj hlock
      have hothers : ∀ x ∈ before ++ after, x.2.holdsLock = false := fun x hx =>
        h.none_of_free hfree x (List.perm_middle.mem_iff.2 (List.mem_cons_of_mem _ hx))
      have ho := h.go_unplanned (hmove .locked) (.inl rfl) (fun _ => hothers) rfl
      exact ⟨_, _, h.advance ho rfl rfl (hsame rfl), hnames _⟩
  | locked =>
    have hothers := h.others_of_holdsLock rfl
    simp only [Operation.task] at hs
    split at hs
    · next p hplan =>
      obtain rfl := Option.some.inj hs
      have ho : Orderly (before ++ (o, .planned p) :: after)
          (s.move i (o.task .locked) (.planned p)) := by
        refine h.go (hmove (.planned p)) (.inl rfl) (fun _ => hothers) ?_ ?_
        · rintro _ ⟨⟩
          exact hplan
        · rintro _ _ ⟨⟩
      exact ⟨_, _, h.advance ho rfl rfl (hsame rfl), hnames _⟩
    · next conflict hplan =>
      obtain rfl := Option.some.inj hs
      have ho := h.go_unplanned (hmove (.settled (.error (.conflict conflict)))) (.inl rfl)
        (fun _ => hothers) rfl
      exact ⟨_, _, h.refuse ho rfl rfl hplan rfl rfl rfl, hnames _⟩
  | planned p =>
    have hothers := h.others_of_holdsLock rfl
    have hplan := h.planned _ hself p rfl
    obtain rfl := Option.some.inj hs
    have ho : Orderly (before ++ (o, .answered p o.answer) :: after)
        { s.move i (o.task (.planned p)) (.answered p o.answer) with
          sent := s.sent ++ [(o.mutation, p)] } := by
      refine h.go (hmove (.answered p o.answer)) (.inl rfl) (fun _ => hothers) ?_ ?_
      · rintro _ ⟨⟩
        exact hplan
      · rintro _ _ ⟨⟩
        rfl
    refine ⟨_, _, h.advance ho rfl rfl ?_, hnames _⟩
    -- Nothing else is unsettled, neither before nor after this is sent.
    have hsent := h.sent
    rw [Orderly.filterMap_unsettled? hothers] at hsent ⊢
    unfold publications at hsent ⊢
    rw [List.map_append, ← List.append_assoc, hsent]
    exact congrArg (· ++ [o.mutation.effect p]) (List.append_nil _)
  | answered p answer =>
    obtain rfl : answer = o.answer := h.answered _ hself p answer rfl
    obtain rfl := Option.some.inj hs
    exact ⟨_, _, h.settle (hmove _) rfl rfl, hnames _⟩
  | settled result =>
    have hothers := h.others_of_holdsLock rfl
    obtain rfl := Option.some.inj hs
    have ho := h.go_unplanned (hmove (.over result)) (.inl rfl) (fun _ => hothers) rfl
    exact ⟨_, _, h.advance ho rfl rfl (hsame rfl), hnames _⟩
  | _ =>
    -- An operation that is over takes no step.
    cases hs

/-- **A run keeps an interleaving linearized.** -/
theorem run {schedule : List Nat} (h : Linearized w order progress s)
    (hs : s.run ctx.watched ctx.settings.botUser schedule = some s') :
    ∃ order' progress', Linearized w order' progress' s' ∧
      progress'.map (·.1) = progress.map (·.1) := by
  induction schedule generalizing s order progress with
  | nil =>
    obtain rfl := Option.some.inj hs
    exact ⟨order, progress, h, rfl⟩
  | cons i schedule ih =>
    obtain ⟨mid, hmid, hrest⟩ := Option.bind_eq_some_iff.1 hs
    obtain ⟨order', progress', h', hnames⟩ := h.step hmid
    obtain ⟨order'', progress'', h'', hnames'⟩ := ih h' hrest
    exact ⟨order'', progress'', h'', hnames'.trans hnames⟩

/-- Operations that have not begun. -/
theorem start (operations : List (Operation ctx listRoom entity)) (w : World σ) :
    Linearized w [] (operations.map fun o => (o, .idle))
      { store := w.store, tasks := operations.map fun o => o.task .idle } := by
  have hidle {x : Progress ctx listRoom entity}
      (hx : x ∈ operations.map fun o => (o, Phase.idle)) : x.2 = .idle := by
    obtain ⟨o, -, rfl⟩ := List.mem_map.1 hx
    rfl
  refine ⟨⟨?_, ?_, ?_, ?_⟩, ?_, rfl, rfl, ?_⟩
  · rw [List.map_map]
    rfl
  · refine List.pairwise_of_forall_mem_list fun x hx y hy hboth => ?_
    rw [hidle hx] at hboth
    cases hboth.1
  · intro x hx p hp
    rw [hidle hx] at hp
    cases hp
  · intro x hx p answer hphase
    rw [hidle hx] at hphase
    cases hphase
  · rw [List.filterMap_eq_nil_iff.2]
    intro x hx
    unfold Progress.placed?
    rw [hidle hx]
    rfl
  · rw [List.filterMap_eq_nil_iff.2]
    · rfl
    · intro x hx
      unfold Progress.unsettled?
      rw [hidle hx]
      rfl

/-- When all operations are over each has taken its place, and nothing is unsettled. -/
theorem perm_of_isOver (h : Linearized w order progress s) (hover : s.isOver = true) :
    (order.map fun x => (x.1, some x.2)).Perm ((progress.map (·.1)).zip s.results) ∧
      progress.filterMap Progress.unsettled? = [] := by
  have hphase {x : Progress ctx listRoom entity} (hx : x ∈ progress) :
      ∃ result, x.2 = .over result := by
    have hall := List.all_eq_true.1 hover x.task (by rw [h.tasks]; exact List.mem_map_of_mem hx)
    have htask : x.task.phase = x.2 := rfl
    rw [htask] at hall
    match hp : x.2 with
    | .over result => exact ⟨result, rfl⟩
    | .idle | .waiting | .locked | .planned _ | .answered _ _ | .settled _ =>
      rw [hp] at hall
      cases hall
  have hresults : s.results = progress.map fun x => x.2.result? := by
    unfold Interleaving.results
    rw [h.tasks, List.map_map]
    refine List.map_congr_left fun x hx => ?_
    obtain ⟨result, hp⟩ := hphase hx
    have htask : x.task.phase = x.2 := rfl
    simp only [Function.comp_apply, htask, hp]
    rfl
  have hplaced : (progress.filterMap Progress.placed?).map (fun x => (x.1, some x.2)) =
      progress.map fun x => (x.1, x.2.result?) := by
    rw [List.map_filterMap, ← List.filterMap_eq_map]
    refine List.filterMap_congr fun x hx => ?_
    obtain ⟨result, hp⟩ := hphase hx
    simp only [Progress.placed?, Function.comp_apply, hp]
    rfl
  constructor
  · rw [hresults, List.zip_map', ← hplaced]
    exact h.placed.map _
  · refine List.filterMap_eq_nil_iff.2 fun x hx => ?_
    obtain ⟨result, hp⟩ := hphase hx
    simp only [Progress.unsettled?, hp]
    rfl

end Linearized

/-- **Operations on one list and one entity are linearizable.**  However operations take their
steps from some world, when all are over there is an order of them in which they could as well have
been carried out one after another from that world: each comes to the same result, the same is
published in the same order, and the store is the same apart from times. -/
theorem linearizable {operations : List (Operation ctx listRoom entity)} {schedule : List Nat}
    {w : World σ} {s : Interleaving}
    (hrun : run ctx.watched ctx.settings.botUser
      { store := w.store, tasks := operations.map fun o => o.task .idle } schedule = some s)
    (hover : s.isOver = true) :
    ∃ order : List (Operation ctx listRoom entity × Except MutationFailure Published),
      (order.map fun x => (x.1, some x.2)).Perm (operations.zip s.results) ∧
      (Operation.runAll (order.map (·.1)) w).1 = order.map (fun x => x.1.resultOf x.2) ∧
      (Operation.runAll (order.map (·.1)) w).2.publications = w.publications ++ s.publications ∧
      (Operation.runAll (order.map (·.1)) w).2.store.undated = s.store.undated := by
  obtain ⟨order, progress, h, hnames⟩ := (Linearized.start operations w).run hrun
  have hoperations : progress.map (·.1) = operations := by
    rw [hnames, List.map_map]
    exact List.map_id _
  obtain ⟨hperm, hunsettled⟩ := h.perm_of_isOver hover
  rw [hoperations] at hperm
  have hsent := h.sent
  rw [hunsettled, List.append_nil] at hsent
  exact ⟨order, hperm, h.results, hsent.symm, h.store⟩

/-- While an administrator's report of a user has looked at the store and waits for the lock, a
command bans the user: the report is refused in the end, as if it had come second. -/
theorem linearizable_ban_before_report :
    let list : WatchedList := { roomId := "!list:example.org", shortcode := "bans", name := "Bans" }
    let ban : Operation Context.small "!list:example.org" "@a:b" :=
      { request := .command (.ban false true "bans" "@a:b" "spam") "@admin:example.org"
        mutation := { list, kind := .user, entity := "@a:b", change := .ban .ban "spam" true }
        answer := .ok "$event", timestamp := 0, requests := rfl, listRoom_eq := rfl
        entity_eq := rfl }
    let report : Operation Context.small "!list:example.org" "@a:b" :=
      { request := .report "@admin:example.org" "@a:b" "bans" "spam"
        mutation := { list, kind := .user, entity := "@a:b", change := .reportBan "spam" }
        answer := .ok "$other", timestamp := 0, requests := rfl, listRoom_eq := rfl
        entity_eq := rfl }
    let w : World Unit :=
      { store := .memory {}, membership := {}, audit := { file := .empty }, server := () }
    let operations := [report, ban]
    ∃ s, run Context.small.watched Context.small.settings.botUser
        { store := w.store, tasks := operations.map fun o => o.task .idle }
        [0, 1, 1, 1, 1, 1, 1, 0, 0, 0] = some s ∧ s.isOver = true ∧
      ∃ order : List (Operation Context.small "!list:example.org" "@a:b" ×
          Except MutationFailure Published),
        (order.map fun x => (x.1, some x.2)).Perm (operations.zip s.results) ∧
        (Operation.runAll (order.map (·.1)) w).1 = order.map (fun x => x.1.resultOf x.2) ∧
        (Operation.runAll (order.map (·.1)) w).2.publications = w.publications ++ s.publications ∧
        (Operation.runAll (order.map (·.1)) w).2.store.undated = s.store.undated := by
  intro list ban report w operations
  have hran : ((run Context.small.watched Context.small.settings.botUser
      { store := w.store, tasks := operations.map fun o => o.task .idle }
      [0, 1, 1, 1, 1, 1, 1, 0, 0, 0]).any Interleaving.isOver) = true := by
    decide +kernel
  obtain ⟨s, hs, hover⟩ := (Option.any_eq_true _ _).1 hran
  exact ⟨s, hs, hover, linearizable hs hover⟩

end Interleaving
end Moderation

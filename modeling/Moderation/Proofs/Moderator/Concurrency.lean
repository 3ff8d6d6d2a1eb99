import Moderation.Moderator.Interleaving
import Moderation.Proofs.Moderator.Planning
/-!
# Mutations at the same time keep one record an entity

However the steps of mutations are interleaved, a list never comes to hold two records of one kind
that are on one entity (`Interleaving.at_most_one_record`).

The locks see to it.  What a task has planned fits the records as they were when it planned, and it
has to go on fitting until it is settled.  Meanwhile others settle; but whoever settles holds a
lock, as does whoever has planned, and no two of those locks are the same, so what is settled is
about another entity or goes to another list. `Interleaving.Sound` is the invariant that says all
this.
-/

namespace Moderation

/-- What a task that has planned is going to publish. -/
def Phase.publication? : Phase → Option Publication
  | .planned p => some p
  | .answered p _ => some p
  | _ => none

theorem Phase.holdsLock_of_publication? {phase : Phase} {p : Publication}
    (h : phase.publication? = some p) :
    phase.holdsLock = true := by
  cases phase with
  | planned | answered => rfl
  | _ => cases h

namespace Interleaving

variable {σ : Type} {ctx : Context σ} {entities : List String} {records : List PolicyRecord}
  {s s' : Interleaving}

/-- The store is tidy, nobody holds a lock that another holds, and what has been planned fits. -/
structure Sound (ctx : Context σ) (entities : List String) (records : List PolicyRecord)
    (s : Interleaving) : Prop where
  holds : s.store.records? = some records
  tidy : Tidy entities records
  issued : ∀ t ∈ s.tasks, t.mutation.Issued ctx ∧ t.mutation.entity ∈ entities
  exclusive : ∀ (i j : Nat) (t u : Task), s.tasks[i]? = some t → s.tasks[j]? = some u →
    t.phase.holdsLock = true → u.phase.holdsLock = true → t.lockKey = u.lockKey → i = j
  fits : ∀ t ∈ s.tasks, ∀ p, t.phase.publication? = some p → t.mutation.Fits records p

/-- What a step of a task can be, as far as locks and plans go. -/
inductive Step (watched : List String) (sender : String) (s : Interleaving) (i : Nat) (t : Task) :
    Interleaving → Prop
  /-- It goes on without a plan and without a lock that it did not have. -/
  | goOn (phase : Phase) (hp : phase.publication? = none)
    (hl : phase.holdsLock = true → t.phase.holdsLock = true) :
    Step watched sender s i t (s.move i t phase)
  | lock (hfree : s.isHeld t.lockKey = false) : Step watched sender s i t (s.move i t .locked)
  | plan (p : Publication) (hl : t.phase.holdsLock = true)
    (hp : t.mutation.plan watched s.store = .ok p) :
    Step watched sender s i t (s.move i t (.planned p))
  | send (p : Publication) (hp : t.phase = .planned p) :
    Step watched sender s i t
      { s.move i t (.answered p t.answer) with sent := s.sent ++ [(t.mutation, p)] }
  /-- It settles a publication that succeeded. -/
  | settle (p : Publication) (answer : Answer String) (hp : t.phase = .answered p answer) :
    Step watched sender s i t
      { s.move i t (.settled (Task.result p answer)) with
        store := t.mutation.recordIn p sender t.timestamp s.store }

theorem begin_cases (s : Interleaving) (watched : List String) (m : Mutation) :
    (s.begin watched m).publication? = none ∧ (s.begin watched m).holdsLock = false := by
  unfold begin
  split
  · split <;> exact ⟨rfl, rfl⟩
  · exact ⟨rfl, rfl⟩

/-- The phase that a step of a task leads to, with the store and what was sent afterwards. -/
inductive Advance (watched : List String) (sender : String) (s : Interleaving) (t : Task) :
    Phase → Store → List (Mutation × Publication) → Prop
  | begin (hphase : t.phase = .idle) :
    Advance watched sender s t (s.begin watched t.mutation) s.store s.sent
  | lock (hphase : t.phase = .waiting) (hfree : s.isHeld t.lockKey = false) :
    Advance watched sender s t .locked s.store s.sent
  | plan (hphase : t.phase = .locked) (p : Publication)
    (hplan : t.mutation.plan watched s.store = .ok p) :
    Advance watched sender s t (.planned p) s.store s.sent
  | refuse (hphase : t.phase = .locked) (conflict : Conflict)
    (hplan : t.mutation.plan watched s.store = .error conflict) :
    Advance watched sender s t (.settled (.error (.conflict conflict))) s.store s.sent
  | send (p : Publication) (hphase : t.phase = .planned p) :
    Advance watched sender s t (.answered p t.answer) s.store (s.sent ++ [(t.mutation, p)])
  | settle (p : Publication) (eventId : String) (hphase : t.phase = .answered p (.ok eventId)) :
    Advance watched sender s t (.settled (.ok { publication := p, eventId }))
      (t.mutation.recordIn p sender t.timestamp s.store) s.sent
  /-- A publication that failed leaves the store as it is. -/
  | fail (p : Publication) (e : HomeserverError) (hphase : t.phase = .answered p (.error e)) :
    Advance watched sender s t (.settled (.error (.unpublished e))) s.store s.sent
  | leave (result : Except MutationFailure Published) (hphase : t.phase = .settled result) :
    Advance watched sender s t (.over result) s.store s.sent

theorem exists_advance {watched : List String} {sender : String} {i : Nat}
    (h : s.step watched sender i = some s') :
    ∃ t phase store sent, s.tasks[i]? = some t ∧ Advance watched sender s t phase store sent ∧
      s' = { s.move i t phase with store, sent } := by
  unfold step at h
  obtain ⟨t, ht, h⟩ := Option.bind_eq_some_iff.1 h
  cases hphase : t.phase with
  | idle =>
    simp only [hphase] at h
    exact ⟨t, _, _, _, ht, .begin hphase, (Option.some.inj h).symm⟩
  | waiting =>
    simp only [hphase] at h
    split at h
    · cases h
    · next hfree =>
      exact ⟨t, _, _, _, ht, .lock hphase (by simpa using hfree), (Option.some.inj h).symm⟩
  | locked =>
    simp only [hphase] at h
    split at h
    · next p hp => exact ⟨t, _, _, _, ht, .plan hphase p hp, (Option.some.inj h).symm⟩
    · next c hc => exact ⟨t, _, _, _, ht, .refuse hphase c hc, (Option.some.inj h).symm⟩
  | planned p =>
    simp only [hphase] at h
    exact ⟨t, _, _, _, ht, .send p hphase, (Option.some.inj h).symm⟩
  | answered p answer =>
    simp only [hphase] at h
    cases answer with
    | ok eventId => exact ⟨t, _, _, _, ht, .settle p eventId hphase, (Option.some.inj h).symm⟩
    | error e => exact ⟨t, _, _, _, ht, .fail p e hphase, (Option.some.inj h).symm⟩
  | settled result =>
    simp only [hphase] at h
    exact ⟨t, _, _, _, ht, .leave result hphase, (Option.some.inj h).symm⟩
  | _ =>
    -- A task that is over takes no step.
    simp only [hphase] at h
    cases h

/-- A step takes no lock that is held. -/
theorem Advance.lock_free {watched : List String} {sender : String} {t : Task} {phase : Phase}
    {store : Store} {sent : List (Mutation × Publication)}
    (h : Advance watched sender s t phase store sent) (hlock : phase.holdsLock = true) :
    t.phase.holdsLock = true ∨ s.isHeld t.lockKey = false := by
  cases h with
  | begin =>
    rw [(s.begin_cases watched t.mutation).2] at hlock
    cases hlock
  | lock hphase hfree => exact .inr hfree
  | leave => cases hlock
  | plan hphase | refuse hphase | send p hphase | settle p _ hphase | fail p _ hphase =>
    exact .inl (by rw [hphase]; rfl)

/-- What every step keeps, a run keeps. -/
theorem run_keeps {watched : List String} {sender : String} {P : Interleaving → Prop}
    (hstep : ∀ s s' i, P s → s.step watched sender i = some s' → P s') {schedule : List Nat}
    (h : P s) (hs : s.run watched sender schedule = some s') : P s' := by
  induction schedule generalizing s with
  | nil =>
    obtain rfl := Option.some.inj hs
    exact h
  | cons i schedule ih =>
    obtain ⟨mid, hmid, hrest⟩ := Option.bind_eq_some_iff.1 hs
    exact ih (hstep s mid i h hmid) hrest

/-- **Nobody waits for ever**: where no task can take a step all are over. -/
theorem isOver_of_stuck {watched : List String} {sender : String}
    (h : ∀ i, s.step watched sender i = none) : s.isOver = true := by
  -- A task that holds its lock can always go on, so no lock is held.
  have hstep {i : Nat} {t : Task} (ht : s.tasks[i]? = some t) :
      t.phase = .waiting ∧ s.isHeld t.lockKey = true ∨ ∃ result, t.phase = .over result := by
    have hi := h i
    rw [step, ht] at hi
    cases hphase : t.phase with
    | waiting => exact .inl ⟨rfl, by simpa [hphase] using hi⟩
    | locked =>
      simp only [Option.bind_eq_bind, Option.bind_some, hphase] at hi
      split at hi <;> cases hi
    | idle | planned | answered | settled => simp [hphase] at hi
    | _ => exact .inr ⟨_, rfl⟩
  refine List.all_eq_true.2 fun t ht => ?_
  obtain ⟨i, hi⟩ := List.getElem?_of_mem ht
  obtain ⟨-, hheld⟩ | ⟨result, hover⟩ := hstep hi
  · obtain ⟨u, hu, hholds⟩ := List.any_eq_true.1 hheld
    obtain ⟨j, hj⟩ := List.getElem?_of_mem hu
    have hlocked : u.phase.holdsLock = true := (Bool.and_eq_true_iff.1 hholds).1
    obtain ⟨hwaiting, -⟩ | ⟨result, hover⟩ := hstep hj
    · rw [hwaiting] at hlocked
      cases hlocked
    · rw [hover] at hlocked
      cases hlocked
  · rw [hover]

theorem step_cases {watched : List String} {sender : String} {i : Nat}
    (h : s.step watched sender i = some s') :
    ∃ t, s.tasks[i]? = some t ∧ Step watched sender s i t s' := by
  obtain ⟨t, phase, store, sent, ht, hadvance, rfl⟩ := exists_advance h
  refine ⟨t, ht, ?_⟩
  cases hadvance with
  | begin =>
    obtain ⟨hp, hl⟩ := s.begin_cases watched t.mutation
    exact .goOn _ hp fun hholds => by rw [hl] at hholds; cases hholds
  | lock _ hfree => exact .lock hfree
  | plan hphase p hp => exact .plan p (by rw [hphase]; rfl) hp
  | refuse hphase => exact .goOn _ rfl fun _ => by rw [hphase]; rfl
  | send p hphase => exact .send p hphase
  | settle p eventId hphase => exact .settle p (.ok eventId) hphase
  | fail p e hphase => exact .goOn _ rfl fun _ => by rw [hphase]; rfl
  | leave => exact .goOn _ rfl fun hholds => by cases hholds

/-! ## What a step preserves -/

section
variable {i : Nat} {t : Task} {phase : Phase}

theorem getElem?_move (ht : s.tasks[i]? = some t) (j : Nat) :
    (s.move i t phase).tasks[j]? = if j = i then some { t with phase } else s.tasks[j]? := by
  obtain ⟨hi, -⟩ := List.getElem?_eq_some_iff.1 ht
  unfold move
  by_cases hj : j = i
  · subst hj
    simp [hi]
  · simp [hj, Ne.symm hj]

theorem mem_move {u : Task} (hu : u ∈ (s.move i t phase).tasks) :
    u ∈ s.tasks ∨ u = { t with phase } :=
  List.mem_or_eq_of_mem_set hu

/-- No task has a relation to another. -/
def Alone (R : Task → Task → Prop) (s : Interleaving) : Prop :=
  ∀ (i j : Nat) (t u : Task), s.tasks[i]? = some t → s.tasks[j]? = some u → R t u → i = j

/-- So it stays if a task goes on to a phase in which it has the relation to no other. -/
theorem Alone.move {R : Task → Task → Prop} (h : s.Alone R) (ht : s.tasks[i]? = some t)
    (hnew : ∀ j u, s.tasks[j]? = some u → R { t with phase } u ∨ R u { t with phase } → j = i) :
    (s.move i t phase).Alone R := by
  intro j k u v hu hv huv
  rw [getElem?_move ht] at hu hv
  split at hu
  · next hj =>
    obtain rfl := Option.some.inj hu
    split at hv
    · next hk => exact hj.trans hk.symm
    · exact hj.trans (hnew k v hv (.inl huv)).symm
  · split at hv
    · next hk =>
      obtain rfl := Option.some.inj hv
      exact (hnew j u hu (.inr huv)).trans hk.symm
    · exact h j k u v hu hv huv

/-- Two tasks hold one lock. -/
def SameLock (t u : Task) : Prop :=
  t.phase.holdsLock = true ∧ u.phase.holdsLock = true ∧ t.lockKey = u.lockKey

/-- **No lock comes to be held twice**: a task that holds its lock held it before, or the lock was
free. -/
theorem Alone.sameLock_move (h : s.Alone SameLock) (ht : s.tasks[i]? = some t)
    (hl : phase.holdsLock = true → t.phase.holdsLock = true ∨ s.isHeld t.lockKey = false) :
    (s.move i t phase).Alone SameLock := by
  have alone {k : Nat} {v : Task} (hv : s.tasks[k]? = some v) (hk : v.phase.holdsLock = true)
      (hkey : v.lockKey = t.lockKey) (hlock : phase.holdsLock = true) : k = i := by
    rcases hl hlock with hheld | hfree
    · exact h k i v t hv ht ⟨hk, hheld, hkey⟩
    · have hany : s.isHeld t.lockKey = true :=
        List.any_eq_true.2 ⟨v, List.mem_of_getElem? hv, by simp [Task.holds, hk, hkey]⟩
      rw [hfree] at hany
      cases hany
  refine h.move ht fun k v hv hsame => ?_
  rcases hsame with ⟨hlock, hk, hkey⟩ | ⟨hk, hlock, hkey⟩
  · exact alone hv hk hkey.symm hlock
  · exact alone hv hk hkey hlock

/-- A task may go on to any phase that keeps to the locks and whose plan fits. -/
theorem Sound.move (h : s.Sound ctx entities records) (ht : s.tasks[i]? = some t)
    (hl : phase.holdsLock = true → t.phase.holdsLock = true ∨ s.isHeld t.lockKey = false)
    (hp : ∀ p, phase.publication? = some p → t.mutation.Fits records p) :
    (s.move i t phase).Sound ctx entities records where
  holds := h.holds
  tidy := h.tidy
  issued := by
    intro u hu
    rcases mem_move hu with hu | rfl
    · exact h.issued u hu
    · exact h.issued t (List.mem_of_getElem? ht)
  exclusive := by
    have halone : s.Alone SameLock := fun j k u v hu hv ⟨huh, hvh, hkey⟩ =>
      h.exclusive j k u v hu hv huh hvh hkey
    intro j k u v hu hv huh hvh hkey
    exact halone.sameLock_move ht hl j k u v hu hv ⟨huh, hvh, hkey⟩
  fits := by
    intro u hu
    rcases mem_move hu with hu | rfl
    · exact h.fits u hu
    · exact hp

/-- A task that holds its lock may publish what fits, having nothing else planned. -/
theorem Sound.publish (hcf : CollisionFree (entities.flatMap hashedTexts))
    (h : s.Sound ctx entities records)
    (ht : s.tasks[i]? = some t) (hl : t.phase.holdsLock = true)
    (hnone : t.phase.publication? = none)
    {p : Publication} (hp : t.mutation.Fits records p) (sender : String) (timestamp : Int64) :
    ({ s with store := t.mutation.recordIn p sender timestamp s.store }).Sound ctx entities
      (publishRecord (t.mutation.record p sender timestamp) records) where
  holds := Mutation.records?_recordIn h.holds h.tidy.keyed _ _ _ _
  tidy := hp.tidy hcf h.tidy (h.issued t (List.mem_of_getElem? ht)).2 _ _
  issued := h.issued
  exclusive := h.exclusive
  fits := by
    intro u hu q hq
    have hother : u.mutation.list.roomId = t.mutation.list.roomId →
      u.mutation.entity ≠ t.mutation.entity := by
      intro hlist hentity
      -- Two tasks with one lock are one task, and that one has nothing planned.
      obtain ⟨j, hj⟩ := List.getElem?_of_mem hu
      have hkey : u.lockKey = t.lockKey := by simp only [Task.lockKey, hlist, hentity]
      obtain rfl := h.exclusive j i u t hj ht (Phase.holdsLock_of_publication? hq) hl hkey
      obtain rfl := Option.some.inj (hj.symm.trans ht)
      rw [hnone] at hq
      cases hq
    exact (h.fits u hu q hq).publish hcf h.tidy hp (h.issued u hu).2
      (h.issued t (List.mem_of_getElem? ht)).2 hother sender timestamp

end

/-- **A step keeps an interleaving sound.** -/
theorem Sound.step (hcf : CollisionFree (entities.flatMap hashedTexts))
    (h : s.Sound ctx entities records) {i : Nat}
    (hs : s.step ctx.watched ctx.settings.botUser i = some s') :
    ∃ records', s'.Sound ctx entities records' := by
  obtain ⟨t, ht, hstep⟩ := step_cases hs
  have hmem : t ∈ s.tasks := List.mem_of_getElem? ht
  cases hstep with
  | goOn phase hp hl =>
    exact ⟨records, h.move ht (fun hholds => .inl (hl hholds)) (by simp [hp])⟩
  | lock hfree =>
    exact ⟨records, h.move ht (fun _ => .inr hfree) (by simp [Phase.publication?])⟩
  | plan p hl hp =>
    obtain ⟨hissued, he⟩ := h.issued t hmem
    have hfits : t.mutation.Fits records p := Mutation.fits_of_plan hcf h.holds h.tidy he hissued hp
    refine ⟨records, h.move ht (fun _ => .inl hl) ?_⟩
    rintro _ ⟨⟩
    exact hfits
  | send p hp =>
    have hfits : t.mutation.Fits records p := h.fits t hmem p (by rw [hp]; rfl)
    have hmoved : (s.move i t (.answered p t.answer)).Sound ctx entities records := by
      refine h.move ht (fun _ => .inl (by rw [hp]; rfl)) ?_
      rintro _ ⟨⟩
      exact hfits
    exact ⟨records, hmoved.holds, hmoved.tidy, hmoved.issued, hmoved.exclusive, hmoved.fits⟩
  | settle p answer hp =>
    -- The task goes on first, so that when it publishes it has nothing of its own left that would
    -- have to fit.
    have hfits : t.mutation.Fits records p := h.fits t hmem p (by rw [hp]; rfl)
    have hmoved : (s.move i t (.settled (Task.result p answer))).Sound ctx entities records :=
      h.move ht (fun _ => .inl (by rw [hp]; rfl)) (by simp [Phase.publication?])
    have hself : (s.move i t (.settled (Task.result p answer))).tasks[i]? =
        some { t with phase := .settled (Task.result p answer) } := by
      rw [getElem?_move ht, if_pos rfl]
    exact ⟨_, hmoved.publish hcf hself rfl rfl hfits _ _⟩

/-- **A run keeps an interleaving sound.** -/
theorem Sound.run (hcf : CollisionFree (entities.flatMap hashedTexts)) {schedule : List Nat}
    (h : s.Sound ctx entities records)
    (hs : s.run ctx.watched ctx.settings.botUser schedule = some s') :
    ∃ records', s'.Sound ctx entities records' := by
  have hstep (s s' : Interleaving) (i : Nat) (h : ∃ records, s.Sound ctx entities records)
      (hs : s.step ctx.watched ctx.settings.botUser i = some s') :
      ∃ records', s'.Sound ctx entities records' := by
    obtain ⟨records, h⟩ := h
    exact h.step hcf hs
  exact run_keeps hstep ⟨records, h⟩ hs

/-- Tasks that have not begun, with a store that holds nothing. -/
theorem sound_start {store : Store} {tasks : List Task} (hempty : store.records? = some [])
    (hidle : ∀ t ∈ tasks, t.phase = .idle) (hissued : ∀ t ∈ tasks, t.mutation.Issued ctx) :
    Sound ctx (tasks.map (·.mutation.entity)) [] { store, tasks } where
  holds := hempty
  tidy := tidy_nil _
  issued := fun t ht => ⟨hissued t ht, List.mem_map_of_mem ht⟩
  exclusive := by
    intro i j t u ht hu htl
    rw [hidle t (List.mem_of_getElem? ht)] at htl
    cases htl
  fits := by
    intro t ht p hp
    rw [hidle t ht] at hp
    cases hp

/-- **No list comes to hold two records of one kind that are on one entity**, in whatever order the
mutations take their steps and whichever of their publications fail. -/
theorem at_most_one_record {store : Store} {tasks : List Task} {schedule : List Nat}
    (hempty : store.records? = some []) (hidle : ∀ t ∈ tasks, t.phase = .idle)
    (hissued : ∀ t ∈ tasks, t.mutation.Issued ctx)
    (hcf : CollisionFree ((tasks.map (·.mutation.entity)).flatMap hashedTexts))
    (hrun : run ctx.watched ctx.settings.botUser { store, tasks } schedule = some s) :
    ∃ records, s.store.records? = some records ∧
      ∀ (list : String) (kind : EntityKind) (entity : String), entity ≠ "" →
        (records.filter fun r =>
          r.listRoom = list && r.kind = kind && r.content.targets entity).length ≤ 1 := by
  obtain ⟨records, h⟩ := (sound_start hempty hidle hissued).run hcf hrun
  exact ⟨records, h.holds, fun list kind entity hne =>
    h.tidy.length_filter_le_one hcf list kind hne⟩

/-- An open ban and a hidden one of the same user, the second of which begins while the first is
under way. -/
theorem at_most_one_record_two_bans :
    let list : WatchedList := { roomId := "!list:example.org", shortcode := "bans", name := "Bans" }
    let ban (hashed : Bool) : Task :=
      { mutation := { list, kind := .user, entity := "@a:b", change := .ban .ban "spam" hashed }
        answer := .ok "$event", timestamp := 0 }
    ∃ s, run Context.small.watched Context.small.settings.botUser
        { store := .memory {}, tasks := [ban false, ban true] }
        [0, 0, 1, 0, 0, 0, 0, 1, 1, 1, 1] = some s ∧
      ∃ records, s.store.records? = some records ∧
        ∀ (list : String) (kind : EntityKind) (entity : String), entity ≠ "" →
          (records.filter fun r =>
            r.listRoom = list && r.kind = kind && r.content.targets entity).length ≤ 1 := by
  intro list ban
  have hran : (run Context.small.watched Context.small.settings.botUser
      { store := .memory {}, tasks := [ban false, ban true] }
      [0, 0, 1, 0, 0, 0, 0, 1, 1, 1, 1]).isSome = true := by
    decide +kernel
  obtain ⟨s, hs⟩ := Option.isSome_iff_exists.1 hran
  refine ⟨s, hs, at_most_one_record rfl (by simp [ban]) ?_ ?_ hs⟩
  · have hissued (hashed : Bool) : (ban hashed).mutation.Issued Context.small :=
      .command (c := .ban false hashed "bans" "@a:b" "spam") rfl rfl
    simp [hissued]
  · exact collisionFree_hashedTexts_user.mono (by simp [ban])

end Interleaving
end Moderation

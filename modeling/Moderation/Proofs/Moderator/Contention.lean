import Moderation.Proofs.Moderator.BanReports
/-!
# Reports on one user at the same time

A report that asks for a ban looks at all the lists that are watched before it waits for its lock,
and once more when it holds it; but the lock is that of one list and the user.  So of reports on one
user that are handled at the same time, at most one acts upon each list, and whoever has not planned
by the time that another has acted is refused (`Interleaving.one_ban_per_list`).  Reports that name
different lists may have planned before either acted, and then both act; and nothing is refused over
rules that cannot be read (`Interleaving.two_bans`).

`Interleaving.Contested` is the invariant.  Where no rule matched the user to begin with, all that
match it later were sent by these reports, so whatever matches is a ban, and something does once one
of them has acted.  A report that is to act therefore planned before, and has held its lock since;
no other on the same list has planned meanwhile.
-/

namespace Moderation

variable {σ : Type} {ctx : Context σ} {entity : String}

/-! ## Reports that contend -/

/-- Nothing is planned for a report on an entity, and if it has come to something it was told that
the entity is banned already. -/
structure Phase.Outrun (entity : String) (phase : Phase) : Prop where
  unplanned : phase.publication? = none
  refused : ∀ result, phase.result? = some result →
    ∃ why, result = .error (.conflict (.alreadyBanned entity why))

namespace Task

/-- A task that has not planned and was not refused. -/
def Unplanned (t : Task) : Prop := t.phase = .idle ∨ t.phase = .waiting ∨ t.phase = .locked

/-- A task whose publication was recorded. -/
def Acted (t : Task) : Prop := ∃ done, t.phase.result? = some (.ok done)

/-- A task whose publication was recorded, or may still be. -/
def Ahead (t : Task) : Prop := (∃ p, t.phase.publication? = some p) ∨ t.Acted

theorem not_ahead {t : Task} (hnone : t.phase.publication? = none)
    (hfailed : ∀ done, t.phase.result? ≠ some (.ok done)) : ¬ t.Ahead := by
  rintro (⟨p, hp⟩ | ⟨done, hdone⟩)
  · rw [hnone] at hp
    cases hp
  · exact hfailed done hdone

/-- A task goes ahead in a list in which another has acted. -/
def Rivals (t u : Task) : Prop :=
  t.Ahead ∧ u.Acted ∧ t.mutation.list.roomId = u.mutation.list.roomId

end Task

namespace Interleaving

/-- Reports on an entity that contend: the rules that match it are bans, no lock is held twice, and
no report goes ahead in a list in which another has acted. -/
structure Contested (reports : List (BanReport ctx entity)) (s : Interleaving) : Prop where
  store : Reports.OnlyBans ctx entity s.store
  length : s.tasks.length = reports.length
  follows : ∀ (i : Nat) (t : Task), s.tasks[i]? = some t →
    ∃ r, reports[i]? = some r ∧ r.Follows t
  locks : s.Alone SameLock
  acted : ∀ t ∈ s.tasks, t.Acted → s.store.find (Reports.query ctx entity) ≠ []
  rivals : s.Alone Task.Rivals

namespace Contested

variable {reports : List (BanReport ctx entity)} {s s' : Interleaving} {i : Nat} {t : Task}
  {r : BanReport ctx entity} {phase : Phase} {store : Store} {sent : List (Mutation × Publication)}

/-- What it takes that reports still contend after one of them went on. -/
theorem go (h : Contested reports s) (ht : s.tasks[i]? = some t) (hr : reports[i]? = some r)
    (hstore : Reports.OnlyBans ctx entity store)
    (hkept : s.store.find (Reports.query ctx entity) ≠ [] →
      store.find (Reports.query ctx entity) ≠ [])
    (hfollows : r.Follows { t with phase })
    (hlock : phase.holdsLock = true → t.phase.holdsLock = true ∨ s.isHeld t.lockKey = false)
    (hacted : Task.Acted { t with phase } → store.find (Reports.query ctx entity) ≠ [])
    (hrivals : ∀ j u, s.tasks[j]? = some u →
      Task.Rivals { t with phase } u ∨ Task.Rivals u { t with phase } → j = i) :
    Contested reports { s.move i t phase with store, sent } where
  store := hstore
  length := (List.length_set ..).trans h.length
  follows := by
    intro j u hu
    have hu : (s.move i t phase).tasks[j]? = some u := hu
    rw [getElem?_move ht] at hu
    split at hu
    · next hj =>
      obtain rfl := Option.some.inj hu
      exact ⟨r, hj ▸ hr, hfollows⟩
    · exact h.follows j u hu
  locks := h.locks.sameLock_move ht hlock
  acted := by
    intro u hu hdone
    rcases mem_move hu with hu | rfl
    · exact hkept (h.acted u hu hdone)
    · exact hacted hdone
  rivals := h.rivals.move ht hrivals

/-- A report that leaves the store alone may go on to any phase that does not put it further
ahead. -/
theorem goOn (h : Contested reports s) (ht : s.tasks[i]? = some t) (hr : reports[i]? = some r)
    (hfollows : r.Follows { t with phase })
    (hlock : phase.holdsLock = true → t.phase.holdsLock = true ∨ s.isHeld t.lockKey = false)
    (hahead : Task.Ahead { t with phase } → t.Ahead)
    (hacted : Task.Acted { t with phase } → t.Acted) :
    Contested reports { s.move i t phase with store := s.store, sent } := by
  refine h.go ht hr h.store id hfollows hlock
    (fun hdone => h.acted t (List.mem_of_getElem? ht) (hacted hdone)) fun j u hu hrivals => ?_
  rcases hrivals with ⟨ha, hd, hlist⟩ | ⟨ha, hd, hlist⟩
  · exact (h.rivals i j t u ht hu ⟨hahead ha, hd, hlist⟩).symm
  · exact h.rivals j i u t hu ht ⟨ha, hacted hd, hlist⟩

/-- A report may always go on to a phase in which it is not ahead. -/
theorem goOn_behind (h : Contested reports s) (ht : s.tasks[i]? = some t)
    (hr : reports[i]? = some r) (hfollows : r.Follows { t with phase })
    (hlock : phase.holdsLock = true → t.phase.holdsLock = true ∨ s.isHeld t.lockKey = false)
    (hbehind : ¬ Task.Ahead { t with phase }) :
    Contested reports { s.move i t phase with store := s.store, sent } :=
  h.goOn ht hr hfollows hlock (fun hahead => absurd hahead hbehind)
    (fun hacted => absurd (.inr hacted) hbehind)

/-- What a report that contends has planned matches the entity once it is recorded. -/
theorem recordIn (h : Contested reports s) (hentity : entity ≠ "") (hf : r.Follows t)
    {p : Publication} (hp : t.phase.publication? = some p) :
    let store := t.mutation.recordIn p ctx.settings.botUser t.timestamp s.store
    Reports.OnlyBans ctx entity store ∧ store.find (Reports.query ctx entity) ≠ [] := by
  rw [hf.mutation]
  exact h.store.recordIn hentity (Context.roomId_mem_watched r.listed) (hf.plans p hp) _ _

/-- A report whose publication is recorded has no rival: no other has acted in its list, since it
was ahead there, and no other is ahead, since it holds the lock. -/
theorem settle (h : Contested reports s) (hentity : entity ≠ "") (ht : s.tasks[i]? = some t)
    (hr : reports[i]? = some r) (hf : r.Follows t) {p : Publication} {eventId : String}
    (hphase : t.phase = .answered p (.ok eventId))
    (hfollows : r.Follows { t with phase := .settled (.ok { publication := p, eventId }) }) :
    Contested reports
      { s.move i t (.settled (.ok { publication := p, eventId })) with
        store := t.mutation.recordIn p ctx.settings.botUser t.timestamp s.store, sent } := by
  have hplanned : t.phase.publication? = some p := by rw [hphase]; rfl
  have hlocked : t.phase.holdsLock = true := Phase.holdsLock_of_publication? hplanned
  have hahead : t.Ahead := .inl ⟨p, hplanned⟩
  obtain ⟨hstore, hne⟩ := h.recordIn hentity hf hplanned
  refine h.go ht hr hstore (fun _ => hne) hfollows (fun _ => .inl hlocked) (fun _ => hne) ?_
  rintro j u hu (⟨-, hacted, hlist⟩ | ⟨⟨q, hq⟩ | hacted, -, hlist⟩)
  · exact (h.rivals i j t u ht hu ⟨hahead, hacted, hlist⟩).symm
  · obtain ⟨r', -, hf'⟩ := h.follows j u hu
    have hlist : u.mutation.list.roomId = t.mutation.list.roomId := hlist
    have hentities : u.mutation.entity = t.mutation.entity := by
      rw [hf.mutation, hf'.mutation]
      rfl
    have hkey : u.lockKey = t.lockKey := by simp only [Task.lockKey, hlist, hentities]
    exact h.locks j i u t hu ht ⟨Phase.holdsLock_of_publication? hq, hlocked, hkey⟩
  · exact (h.rivals i j t u ht hu ⟨hahead, hacted, hlist.symm⟩).symm

/-- **Reports that contend still do after a step.** -/
theorem step (h : Contested reports s) (hentity : entity ≠ "")
    (hs : s.step ctx.watched ctx.settings.botUser i = some s') : Contested reports s' := by
  obtain ⟨t, phase, store, sent, ht, hadvance, rfl⟩ := exists_advance hs
  obtain ⟨r, hr, hf⟩ := h.follows i t ht
  have hfollows : r.Follows { t with phase } := hf.advance h.store hadvance
  have hlock := hadvance.lock_free
  cases hadvance with
  | begin =>
    obtain hbegin | ⟨why, hbegin⟩ := hf.begin_cases h.store <;>
      rw [hbegin] at hfollows hlock ⊢ <;>
      exact h.goOn_behind ht hr hfollows hlock (Task.not_ahead rfl nofun)
  | lock | refuse | fail => exact h.goOn_behind ht hr hfollows hlock (Task.not_ahead rfl nofun)
  | plan hphase p hplan =>
    -- Nothing matches, so nobody has acted.
    rw [hf.mutation] at hplan
    obtain ⟨hnil, -⟩ := h.store.of_plan_ok hplan
    refine h.go ht hr h.store id hfollows hlock nofun ?_
    rintro j u hu (⟨-, hacted, -⟩ | ⟨-, ⟨_, ⟨⟩⟩, -⟩)
    exact absurd hnil (h.acted u (List.mem_of_getElem? hu) hacted)
  | send p hphase =>
    exact h.goOn ht hr hfollows hlock (fun _ => .inl ⟨p, by rw [hphase]; rfl⟩) nofun
  | settle p eventId hphase => exact h.settle hentity ht hr hf hphase hfollows
  | leave result hphase =>
    have hdone : Task.Acted { t with phase := .over result } → t.Acted := by
      rintro ⟨done, ⟨⟩⟩
      exact ⟨done, by rw [hphase]; rfl⟩
    refine h.goOn ht hr hfollows hlock ?_ hdone
    rintro (⟨_, ⟨⟩⟩ | hacted)
    exact .inr (hdone hacted)

/-- **Reports that contend still do after a run.** -/
theorem run {schedule : List Nat} (h : Contested reports s) (hentity : entity ≠ "")
    (hs : s.run ctx.watched ctx.settings.botUser schedule = some s') : Contested reports s' :=
  run_keeps (fun _ _ _ h hstep => h.step hentity hstep) h hs

/-- Reports that have not begun, on an entity that no rule matches. -/
theorem start {records : List PolicyRecord} (reports : List (BanReport ctx entity))
    (hreadable : store.recordsOf? .user = some records)
    (hnone : store.find (Reports.query ctx entity) = []) :
    Contested reports { store, tasks := reports.map BanReport.task } where
  store := ⟨⟨records, hreadable⟩, by simp [hnone]⟩
  length := List.length_map _
  follows := by
    intro i t ht
    rw [List.getElem?_map] at ht
    obtain ⟨r, hr, rfl⟩ := Option.map_eq_some_iff.1 ht
    exact ⟨r, hr, rfl, nofun, rfl, nofun, nofun⟩
  locks := by
    rintro i j t u ht - ⟨hlock, -⟩
    obtain ⟨r, -, rfl⟩ := List.mem_map.1 (List.mem_of_getElem? ht)
    cases hlock
  acted := by
    rintro t ht ⟨done, hdone⟩
    obtain ⟨r, -, rfl⟩ := List.mem_map.1 ht
    cases hdone
  rivals := by
    rintro i j t u - hu ⟨-, ⟨done, hdone⟩, -⟩
    obtain ⟨r, -, rfl⟩ := List.mem_map.1 (List.mem_of_getElem? hu)
    cases hdone

end Contested

/-! ## Reports that come too late -/

/-- A report comes too late when a rule matches its entity while nothing is planned for it. -/
structure Late (ctx : Context σ) (entity : String) (i : Nat) (s : Interleaving) : Prop where
  matched : s.store.find (Reports.query ctx entity) ≠ []
  outrun : ∃ t, s.tasks[i]? = some t ∧ t.phase.Outrun entity

namespace Late

variable {reports : List (BanReport ctx entity)} {s s' : Interleaving} {i j : Nat} {t : Task}
  {r : BanReport ctx entity} {phase : Phase} {store : Store} {sent : List (Mutation × Publication)}

/-- Where a rule matches, a report that goes on plans nothing, and is told so. -/
theorem outrun_advance (h : Contested reports s) (hf : r.Follows t)
    (hmatched : s.store.find (Reports.query ctx entity) ≠ []) (hout : t.phase.Outrun entity)
    (hadvance : s.Advance ctx.watched ctx.settings.botUser t phase store sent) :
    phase.Outrun entity := by
  cases hadvance with
  | begin hphase =>
    obtain hbegin | ⟨why, hbegin⟩ := hf.begin_cases h.store <;> rw [hbegin]
    · exact ⟨rfl, nofun⟩
    · exact ⟨rfl, by rintro _ ⟨⟩; exact ⟨why, rfl⟩⟩
  | lock => exact ⟨rfl, nofun⟩
  | plan hphase p hplan =>
    rw [hf.mutation] at hplan
    exact absurd (h.store.of_plan_ok hplan).1 hmatched
  | refuse hphase conflict hplan =>
    rw [hf.mutation] at hplan
    obtain ⟨why, rfl⟩ := h.store.of_plan_error hplan
    exact ⟨rfl, by rintro _ ⟨⟩; exact ⟨why, rfl⟩⟩
  | leave result hphase =>
    exact ⟨rfl, fun _ hover => hout.refused _ (by rw [hphase]; exact hover)⟩
  | send p hphase | settle p _ hphase | fail p _ hphase =>
    -- It would have something planned.
    have hnone := hout.unplanned
    rw [hphase] at hnone
    cases hnone

/-- **A report that comes too late stays so**, whoever takes the step. -/
theorem step (hl : Late ctx entity i s) (h : Contested reports s) (hentity : entity ≠ "")
    (hs : s.step ctx.watched ctx.settings.botUser j = some s') : Late ctx entity i s' := by
  obtain ⟨u, phase, store, sent, hu, hadvance, rfl⟩ := exists_advance hs
  obtain ⟨r, hr, hf⟩ := h.follows j u hu
  obtain ⟨t, ht, hout⟩ := hl.outrun
  have hmatched : store.find (Reports.query ctx entity) ≠ [] := by
    cases hadvance with
    | settle p eventId hphase => exact (h.recordIn hentity hf (by rw [hphase]; rfl)).2
    | _ => exact hl.matched
  have hmoved : ∃ t, (s.move j u phase).tasks[i]? = some t ∧ t.phase.Outrun entity := by
    rw [getElem?_move hu]
    split
    · next hij =>
      subst hij
      obtain rfl := Option.some.inj (ht.symm.trans hu)
      exact ⟨_, rfl, outrun_advance h hf hl.matched hout hadvance⟩
    · exact ⟨t, ht, hout⟩
  exact ⟨hmatched, hmoved⟩

/-- So it does in a run. -/
theorem run {schedule : List Nat} (hl : Late ctx entity i s) (h : Contested reports s)
    (hentity : entity ≠ "")
    (hs : s.run ctx.watched ctx.settings.botUser schedule = some s') : Late ctx entity i s' := by
  have hstep (s s' : Interleaving) (j : Nat) (h : Late ctx entity i s ∧ Contested reports s)
      (hs : s.step ctx.watched ctx.settings.botUser j = some s') :
      Late ctx entity i s' ∧ Contested reports s' :=
    ⟨h.1.step h.2 hentity hs, h.2.step hentity hs⟩
  exact (run_keeps hstep ⟨hl, h⟩ hs).1

end Late

/-! ## What comes of the reports -/

section
variable {reports : List (BanReport ctx entity)} {s : Interleaving} {i : Nat} {t : Task}

/-- What a report is answered with that is over. -/
def outcome? (s : Interleaving) (r : BanReport ctx entity) (i : Nat) :
    Option (Except ReportError ReportOutcome) :=
  s.results[i]?.join.map r.outcome

/-- A report that was answered is over. -/
theorem Contested.of_outcome? (h : Contested reports s) {r : BanReport ctx entity}
    (hr : reports[i]? = some r) {outcome : Except ReportError ReportOutcome}
    (houtcome : s.outcome? r i = some outcome) :
    ∃ t result, s.tasks[i]? = some t ∧ r.Follows t ∧ t.phase.result? = some result ∧
      outcome = r.outcome result := by
  obtain ⟨result, hresult, rfl⟩ := Option.map_eq_some_iff.1 houtcome
  rw [Option.join_eq_some_iff, results, List.getElem?_map] at hresult
  obtain ⟨t, ht, hphase⟩ := Option.map_eq_some_iff.1 hresult
  obtain ⟨r', hr', hf⟩ := h.follows i t ht
  obtain rfl := Option.some.inj (hr.symm.trans hr')
  split at hphase
  · next hover =>
    obtain rfl := Option.some.inj hphase
    exact ⟨t, _, ht, hf, by rw [hover]; rfl, rfl⟩
  · cases hphase

/-- A report that was answered with a rule has acted upon its list. -/
theorem Contested.acted_of_policy (h : Contested reports s) {r : BanReport ctx entity}
    (hr : reports[i]? = some r) {action : PolicyAction}
    (hpolicy : s.outcome? r i = some (.ok (.policy action))) :
    ∃ t, s.tasks[i]? = some t ∧ t.Acted ∧ t.mutation.list = r.list := by
  obtain ⟨t, result, ht, hf, hresult, houtcome⟩ := h.of_outcome? hr hpolicy
  cases result with
  | ok done => exact ⟨t, ht, ⟨done, hresult⟩, by rw [hf.mutation]; rfl⟩
  | error failure => cases houtcome

/-- Where no task can take a step every report has been answered. -/
theorem Contested.isSome_outcome? (h : Contested reports s)
    (hstuck : ∀ i, s.step ctx.watched ctx.settings.botUser i = none) {r : BanReport ctx entity}
    (hr : reports[i]? = some r) : (s.outcome? r i).isSome = true := by
  have hi : i < s.tasks.length := by
    rw [h.length]
    exact (List.getElem?_eq_some_iff.1 hr).1
  have ht : s.tasks[i]? = some s.tasks[i] := List.getElem?_eq_getElem hi
  have hover := List.all_eq_true.1 (isOver_of_stuck hstuck) _ (List.mem_of_getElem? ht)
  split at hover
  · next result hphase => simp [outcome?, results, ht, hphase]
  · cases hover

end

/-- How reports on an entity end that take their steps in some order, from a store on. -/
structure OneBanPerList (reports : List (BanReport ctx entity)) (store : Store)
    (schedule : List Nat) (s : Interleaving) : Prop where
  /-- A report that is handled alone is answered in the same way from what comes of its mutation, be
  its target the user that it names or the one who sent its event. -/
  handled : ∀ r ∈ reports, ∀ (report : Report) (sender : Option String) (w w' : World σ),
    Reports.Located ctx report w sender (some entity) w' → report.reporter = r.reporter →
    report.reason = r.text →
    (Reports.handle ctx report w).1 = r.outcome (r.mutation.run ctx r.reporter w').1
  /-- Each is answered with the rule that was sent, or is told that the entity is banned already, or
  that the homeserver did not take the rule. -/
  ends : ∀ i r outcome, reports[i]? = some r → s.outcome? r i = some outcome → r.Ends outcome
  /-- All are answered: as long as one is not, some can go on. -/
  answered : (∀ i, s.step ctx.watched ctx.settings.botUser i = none) →
    ∀ i r, reports[i]? = some r → (s.outcome? r i).isSome = true
  /-- Of those on one list at most one is answered with a rule. -/
  single : ∀ i j r r' action action', reports[i]? = some r → reports[j]? = some r' →
    r.list.roomId = r'.list.roomId → s.outcome? r i = some (.ok (.policy action)) →
    s.outcome? r' j = some (.ok (.policy action')) → i = j
  /-- One that has not planned when another has acted, on whichever list, is told that the entity is
  banned already. -/
  late : ∀ (before after : List Nat) (mid : Interleaving), schedule = before ++ after →
    run ctx.watched ctx.settings.botUser { store, tasks := reports.map BanReport.task } before =
      some mid →
    ∀ (i j : Nat) r (t u : Task) outcome, reports[i]? = some r → mid.tasks[i]? = some t →
      t.Unplanned → mid.tasks[j]? = some u → u.Acted → s.outcome? r i = some outcome →
      ∃ why, outcome = .error (.conflict (.alreadyBanned entity why))

/-- **At most one report on a user acts upon each list**, whatever reports there are and in whatever
order they take their steps, if the rules about users can be read and none matched the user to begin
with. -/
theorem one_ban_per_list {reports : List (BanReport ctx entity)} {store : Store}
    {records : List PolicyRecord} {schedule : List Nat} {s : Interleaving} (hentity : entity ≠ "")
    (hreadable : store.recordsOf? .user = some records)
    (hnone : store.find (Reports.query ctx entity) = [])
    (hrun : run ctx.watched ctx.settings.botUser
      { store, tasks := reports.map BanReport.task } schedule = some s) :
    OneBanPerList reports store schedule s := by
  have hstart := Contested.start reports hreadable hnone
  have h : Contested reports s := hstart.run hentity hrun
  refine ⟨fun r _ _ _ _ _ => r.handle_fst, ?ends,
    fun hstuck i r hr => h.isSome_outcome? hstuck hr, ?single, ?late⟩
  case ends =>
    intro i r outcome hr houtcome
    obtain ⟨t, result, -, hf, hresult, rfl⟩ := h.of_outcome? hr houtcome
    exact hf.ends result hresult
  case single =>
    intro i j r r' action action' hr hr' hlist hi hj
    obtain ⟨t, ht, hacted, htl⟩ := h.acted_of_policy hr hi
    obtain ⟨u, hu, hacted', hul⟩ := h.acted_of_policy hr' hj
    exact h.rivals i j t u ht hu ⟨.inr hacted, hacted', by rw [htl, hul, hlist]⟩
  case late =>
    rintro before after mid rfl hbefore i j r t u outcome hr ht hunplanned hu hacted houtcome
    rw [run, List.foldlM_append] at hrun
    obtain ⟨mid', hmid', hafter⟩ := Option.bind_eq_some_iff.1 hrun
    obtain rfl := Option.some.inj (hbefore.symm.trans hmid')
    have hmid : Contested reports mid := hstart.run hentity hbefore
    have hlate : Late ctx entity i mid := by
      refine ⟨hmid.acted u (List.mem_of_getElem? hu) hacted, t, ht, ?_⟩
      rcases hunplanned with hphase | hphase | hphase <;> rw [hphase] <;> exact ⟨rfl, nofun⟩
    obtain ⟨t', ht', hout⟩ := (hlate.run hmid hentity hafter).outrun
    obtain ⟨t'', result, ht'', -, hresult, rfl⟩ := h.of_outcome? hr houtcome
    obtain rfl := Option.some.inj (ht'.symm.trans ht'')
    obtain ⟨why, rfl⟩ := hout.refused result hresult
    exact ⟨why, rfl⟩

end Interleaving

/-- A moderator of two lists. -/
def Context.pair : Context Unit :=
  { Context.small with
    lists :=
      [{ roomId := "!list:example.org", shortcode := "bans", name := "Bans" },
        { roomId := "!other:example.org", shortcode := "spam", name := "Spam" }] }

/-- The administrator's report that asks for a ban in the first of them. -/
def BanReport.first (entity : String) : BanReport Context.pair entity where
  reporter := "@admin:example.org"
  text := "/ban bans spam"
  shortcode := "bans"
  reason := "spam"
  list := { roomId := "!list:example.org", shortcode := "bans", name := "Bans" }
  answer := .ok "$event"
  timestamp := 0
  admin := rfl
  asks := by rfl
  listed := rfl

/-- And one that asks for it in the second. -/
def BanReport.second (entity : String) : BanReport Context.pair entity where
  reporter := "@admin:example.org"
  text := "/ban spam links"
  shortcode := "spam"
  reason := "links"
  list := { roomId := "!other:example.org", shortcode := "spam", name := "Spam" }
  answer := .ok "$other"
  timestamp := 0
  admin := rfl
  asks := by rfl
  listed := rfl

namespace Interleaving

/-- Three reports of which two are on one list and look at the store before any has acted. -/
theorem one_ban_per_list_three :
    let reports : List (BanReport Context.pair "@a:b") := [.first _, .first _, .second _]
    let schedule := [0, 1, 0, 0, 0, 0, 0, 1, 1, 1, 2]
    ∃ s, run Context.pair.watched Context.pair.settings.botUser
        { store := .memory {}, tasks := reports.map BanReport.task } schedule = some s ∧
      s.isOver = true ∧ OneBanPerList reports (.memory {}) schedule s := by
  intro reports schedule
  have hran : ((run Context.pair.watched Context.pair.settings.botUser
      { store := .memory {}, tasks := reports.map BanReport.task } schedule).any
        Interleaving.isOver) = true := by
    decide +kernel
  obtain ⟨s, hs, hover⟩ := (Option.any_eq_true _ _).1 hran
  exact ⟨s, hs, hover, one_ban_per_list (by decide) rfl rfl hs⟩

/-- Whether all the reports were answered with a rule. -/
def allActed (reports : List (BanReport ctx entity)) (s : Interleaving) : Bool :=
  reports.zipIdx.all fun (r, i) =>
    match s.outcome? r i with
    | some (.ok (.policy _)) => true
    | _ => false

/-- None of that can be left out.  Two reports on a user whom no rule matches both act on different
lists if both have planned before either acts; on one list if a rule about users cannot be read,
since then nothing is ever found; and on one list if the user has no name. -/
theorem two_bans :
    let unreadable : PolicyRow :=
      { listRoom := "!list:example.org", kind := "user", stateKey := "k",
        sender := "@mod:example.org", timestamp := 5, content := "oops" }
    let both (entity : String) (store : Store) (reports : List (BanReport Context.pair entity))
        (schedule : List Nat) : Prop :=
      store.find (Reports.query Context.pair entity) = [] ∧
        ∃ s, run Context.pair.watched Context.pair.settings.botUser
          { store, tasks := reports.map BanReport.task } schedule = some s ∧
            s.allActed reports = true
    both "@a:b" (.memory {}) [.first _, .second _] [0, 1, 0, 1, 0, 1, 0, 1, 0, 1, 0, 1] ∧
      both "@a:b" (.database { policies := some [unreadable] }) [.first _, .first _]
        [0, 0, 0, 0, 0, 0, 1, 1, 1, 1, 1, 1] ∧
      both "" (.memory {}) [.first _, .first _] [0, 0, 0, 0, 0, 0, 1, 1, 1, 1, 1, 1] := by
  intro unreadable both
  have hboth {entity : String} {store : Store} {reports : List (BanReport Context.pair entity)}
      {schedule : List Nat} (hnone : store.find (Reports.query Context.pair entity) = [])
      (hran : ((run Context.pair.watched Context.pair.settings.botUser
        { store, tasks := reports.map BanReport.task } schedule).any (allActed reports)) = true) :
      both entity store reports schedule := by
    obtain ⟨s, hs, hacted⟩ := (Option.any_eq_true _ _).1 hran
    exact ⟨hnone, s, hs, hacted⟩
  refine ⟨hboth rfl ?_, hboth ?_ ?_, hboth rfl ?_⟩ <;> decide +kernel

end Interleaving
end Moderation

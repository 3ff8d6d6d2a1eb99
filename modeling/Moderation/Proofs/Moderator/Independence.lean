import Moderation.Proofs.Moderator.StandingUnban
import Moderation.Proofs.Store.History
import Moderation.Proofs.Store.Undated
/-!
# Requests about different entities

Two requests to change a list that are about different entities do not depend on each other, unless
the rules of one cover the other entity with wildcards.  What a request comes to depends on what the
store finds for its entity and on nothing else (`ChangeRequest.run_congr`); and a request about
another entity does not change what is found (`ChangeRequest.find_run`), as it publishes rules of
that entity only, over rules of that entity only.

So each of the two comes to the same if they are carried out in the other order, and as the records
that they publish have different keys, the same records stand afterwards
(`ChangeRequest.run_comm`).
-/

namespace Moderation

/-! ## Records that do not touch each other -/

/-- What finds neither a record nor the one under its key does not see that it is published. -/
theorem filter_publishRecord {finds : PolicyRecord → Bool} {r : PolicyRecord}
    {records : List PolicyRecord} (hr : r.content.isTombstone = false → finds r = false)
    (hold : ∀ p ∈ records, p.key = r.key → finds p = false) :
    (publishRecord r records).filter finds = records.filter finds := by
  induction records with
  | nil =>
    cases htomb : r.content.isTombstone with
    | true => simp [publishRecord, htomb]
    | false => simp [publishRecord, htomb, hr htomb]
  | cons p records ih =>
    have hrest := ih fun q hq => hold q (List.mem_cons_of_mem p hq)
    by_cases hkey : p.key = r.key
    · have hp : finds p = false := hold p List.mem_cons_self hkey
      cases htomb : r.content.isTombstone with
      | true => simp [publishRecord, hkey, htomb, hp]
      | false => simp [publishRecord, hkey, htomb, hp, hr htomb]
    · rw [publishRecord, if_neg hkey, List.filter_cons, List.filter_cons, hrest]

/-- The records that stand after two are published under different keys. -/
theorem mem_publishRecord_twice {p r r' : PolicyRecord} {records : List PolicyRecord}
    (hk : Keyed records) (hne : r.key ≠ r'.key) :
    p ∈ publishRecord r (publishRecord r' records) ↔
      (p ∈ records ∧ p.key ≠ r.key ∧ p.key ≠ r'.key) ∨
        (p = r ∧ r.content.isTombstone = false) ∨ (p = r' ∧ r'.content.isTombstone = false) := by
  rw [mem_publishRecord (keyed_publishRecord r' hk), mem_publishRecord hk]
  constructor
  · rintro (⟨⟨hp, hpr'⟩ | h, hpr⟩ | h)
    · exact .inl ⟨hp, hpr, hpr'⟩
    · exact .inr (.inr h)
    · exact .inr (.inl h)
  · rintro (⟨hp, hpr, hpr'⟩ | h | ⟨rfl, hrule⟩)
    · exact .inl ⟨.inl ⟨hp, hpr'⟩, hpr⟩
    · exact .inr h
    · exact .inl ⟨.inr ⟨rfl, hrule⟩, hne.symm⟩

/-- **Records under different keys can be published in either order.** -/
theorem publishRecord_comm {r r' : PolicyRecord} {records : List PolicyRecord}
    (hk : Keyed records) (hne : r.key ≠ r'.key) :
    (publishRecord r (publishRecord r' records)).Perm
      (publishRecord r' (publishRecord r records)) := by
  have hnodup := (keyed_publishRecord r (keyed_publishRecord r' hk)).nodup
  have hnodup' := (keyed_publishRecord r' (keyed_publishRecord r hk)).nodup
  refine (List.perm_ext_iff_of_nodup hnodup hnodup').2 fun p => ?_
  rw [mem_publishRecord_twice hk hne, mem_publishRecord_twice hk hne.symm,
    and_comm (a := p.key ≠ r.key), or_comm (a := p = r ∧ _)]

/-- A record of one entity is not found when another is asked for, unless it covers that one. -/
theorem PolicyRecord.IsOf.not_accepts {entities : List String}
    (hcf : CollisionFree (entities.flatMap hashedTexts)) {r : PolicyRecord} {e : String}
    (h : r.IsOf e) (he : e ∈ entities) (hglob : Glob.isGlob e = false) {q : PolicyQuery}
    (hv : q.value ∈ entities) (hne : e ≠ q.value) : q.accepts r = false := by
  by_contra haccepts
  have hselects := (PolicyQuery.accepts_iff h.rule).1 (by simpa using haccepts)
  rcases h.about with ⟨hentity, hhashes⟩ | ⟨hempty, -, hdigest⟩
  · rcases hselects.about with (⟨-, hnamed⟩ | ⟨-, hhidden⟩) | ⟨-, hcovers⟩
    · exact hne (hentity.symm.trans hnamed)
    · simp [PolicyContent.sha256, hhashes] at hhidden
    · rw [← Glob.covers_eq_true, hentity] at hcovers
      simp [Glob.covers, hglob] at hcovers
  · rcases hselects.about with (⟨hvalue, -⟩ | ⟨-, hhidden⟩) | ⟨-, hcovers⟩
    · exact hvalue hempty
    · have hp : Entity.pseudonym e = Entity.pseudonym q.value :=
        Option.some.inj (hdigest.symm.trans hhidden)
      exact hne (eq_of_digest_eq hcf he hv (digest_eq_of_pseudonym_eq hp))
    · rw [← Glob.covers_eq_true, hempty] at hcovers
      simp [Glob.covers, Glob.isGlob] at hcovers

variable {σ : Type} {ctx : Context σ} {w : World σ}

/-! ## What a request comes to -/

/-- A homeserver refuses publications by a table of errors, whatever state it is in.  What it takes
it may answer with any event. -/
def Homeserver.Refuses (h : Homeserver σ) (table : Effect → Option HomeserverError) : Prop :=
  ∀ listRoom kind stateKey content s,
    match table (.publish listRoom kind stateKey content) with
    | some e => (h.publish listRoom kind stateKey content s).1 = .error e
    | none => ∃ eventId, (h.publish listRoom kind stateKey content s).1 = .ok eventId

/-- What came of a request, but for the event that carries its rule. -/
def ChangeResult.eventless : ChangeResult → ChangeResult
  | .report (.ok (.policy action)) => .report (.ok (.policy { action with eventId := "" }))
  | result => result

theorem Mutation.query_value (m : Mutation) (watched : List String) :
    (m.query watched).value = m.entity := by
  unfold query
  cases m.change <;> rfl

namespace ChangeRequest

variable {x y : ChangeRequest} {e : String}

/-- The entity that a request is about, if it asks for a change. -/
def entity? : ChangeRequest → Option String
  | .command c _ => c.change?.map fun (_, entity, _) => entity
  | .report _ entity _ _ => some entity

/-- What a request plans to publish, if its mutation is known and not refused. -/
def planned? (ctx : Context σ) (x : ChangeRequest) (store : Store) :
    Option (Mutation × Publication) :=
  (x.mutation? ctx).bind fun m => (m.plan ctx.watched store).toOption.map fun p => (m, p)

theorem planned?_eq_some {store : Store} {m : Mutation} {p : Publication} :
    x.planned? ctx store = some (m, p) ↔
      x.mutation? ctx = some m ∧ m.plan ctx.watched store = .ok p := by
  unfold planned?
  constructor
  · intro h
    obtain ⟨m', hm, hplan⟩ := Option.bind_eq_some_iff.1 h
    obtain ⟨p', hp, heq⟩ := Option.map_eq_some_iff.1 hplan
    cases heq
    exact ⟨hm, toOption_eq_some.1 hp⟩
  · rintro ⟨hm, hplan⟩
    rw [hm, Option.bind_some, toOption_eq_some.2 hplan, Option.map_some]

/-- A request asks for a mutation of the entity that it is about. -/
theorem mutation?_spec {m : Mutation} (hx : x.entity? = some e) (hm : x.mutation? ctx = some m) :
    m.Issued ctx ∧ m.entity = e := by
  match x with
  | .command c actor =>
    obtain ⟨⟨shortcode, entity, change⟩, hchange, hmutation⟩ := Option.bind_eq_some_iff.1 hm
    have hok := toOption_eq_some.1 hmutation
    refine ⟨.command hchange hok, ?_⟩
    obtain ⟨list, kind, -, -, rfl⟩ := Commands.mutation_eq_ok.1 hok
    simpa [entity?, hchange] using hx
  | .report reporter entity shortcode reason =>
    obtain ⟨list, hl, rfl⟩ := Option.map_eq_some_iff.1 hm
    exact ⟨.report hl entity reason, Option.some.inj hx⟩

/-! ### Requests that publish nothing -/

/-- A request whose mutation is not known fails, and how it does depends on what is found for its
entity. -/
theorem run_unresolved (hx : x.entity? = some e) (hm : x.mutation? ctx = none) (w : World σ) :
    w.Still (x.run ctx w).2 ∧
      ∀ v : World σ, (∀ q : PolicyQuery, q.value = e → w.store.find q = v.store.find q) →
        (x.run ctx w).1 = (x.run ctx v).1 := by
  match x with
  | .command c actor =>
    obtain ⟨⟨shortcode, entity, change⟩, hchange, -⟩ := Option.map_eq_some_iff.1 hx
    cases hmutation : Commands.mutation ctx shortcode entity change with
    | ok m => simp [mutation?, hchange, hmutation, Except.toOption] at hm
    | error failure =>
      have hrun (v : World σ) : (ChangeRequest.command c actor).run ctx v =
          (.command (.error failure), v) := by
        have hmutate : Commands.mutate ctx shortcode entity change actor v =
            (.error failure, v) := by
          unfold Commands.mutate
          rw [hmutation]
          rfl
        rw [← Commands.execute_of_change hchange] at hmutate
        exact congrArg (fun after => (ChangeResult.command after.1, after.2)) hmutate
      rw [hrun]
      exact ⟨.refl w, fun v _ => by rw [hrun]⟩
  | .report reporter entity shortcode reason =>
    obtain rfl := Option.some.inj hx
    have hlist : ctx.listNamed shortcode = none := by simpa [mutation?] using hm
    have hrun (v : World σ) : (ChangeRequest.report reporter entity shortcode reason).run ctx v =
        (.report (Reports.ban ctx reporter entity shortcode reason v).1,
          (Reports.ban ctx reporter entity shortcode reason v).2) := rfl
    have hdeciding (v : World σ)
        (hagree : ∀ q : PolicyQuery, q.value = entity → w.store.find q = v.store.find q) :
        Reports.deciding ctx entity w.store = Reports.deciding ctx entity v.store := by
      rw [Reports.deciding, Reports.deciding, hagree _ rfl]
    simp only [hrun]
    cases hd : Reports.deciding ctx entity w.store with
    | some r =>
      rw [Reports.ban_of_deciding hd]
      refine ⟨.refl w, fun v hagree => ?_⟩
      rw [Reports.ban_of_deciding ((hdeciding v hagree).symm.trans hd)]
    | none =>
      rw [Reports.ban_of_none hd, hlist]
      refine ⟨⟨rfl, World.publications_shown _ _ _⟩, fun v hagree => ?_⟩
      rw [Reports.ban_of_none ((hdeciding v hagree).symm.trans hd), hlist]

/-- A request that plans nothing publishes nothing. -/
theorem run_unplanned (hx : x.entity? = some e) {w : World σ}
    (hplanned : x.planned? ctx w.store = none) : w.Still (x.run ctx w).2 := by
  cases hm : x.mutation? ctx with
  | none => exact (run_unresolved hx hm w).1
  | some m =>
    obtain ⟨actor, hrun⟩ := run_mutation hm
    obtain ⟨-, hstore, hpublications⟩ := hrun w
    cases hplan : m.plan ctx.watched w.store with
    | ok p =>
      rw [planned?_eq_some.2 ⟨hm, hplan⟩] at hplanned
      cases hplanned
    | error conflict =>
      rw [Mutation.run_refused hplan] at hstore hpublications
      exact ⟨hstore, hpublications⟩

/-- A request that plans something publishes it. -/
theorem run_planned {m : Mutation} {p : Publication} {w : World σ}
    (hplanned : x.planned? ctx w.store = some (m, p)) :
    ∃ actor, (x.run ctx w).2.store = (w.published ctx m p actor).store ∧
      (x.run ctx w).2.publications = w.publications ++ [m.effect p] := by
  obtain ⟨hm, hplan⟩ := planned?_eq_some.1 hplanned
  obtain ⟨actor, hrun⟩ := run_mutation hm
  obtain ⟨-, hstore, hpublications⟩ := hrun w
  rw [Mutation.run_planned hplan] at hstore hpublications
  exact ⟨actor, hstore, hpublications.trans (World.publications_published _ _ _ _ _)⟩

theorem run_publications (hx : x.entity? = some e) (w : World σ) :
    (x.run ctx w).2.publications =
      w.publications ++ (x.planned? ctx w.store).toList.map fun sent => sent.1.effect sent.2 := by
  cases hplanned : x.planned? ctx w.store with
  | none => simpa using (run_unplanned hx hplanned).publications
  | some sent =>
    obtain ⟨actor, -, hpublications⟩ := run_planned (m := sent.1) (p := sent.2) hplanned
    exact hpublications

/-! ### What a request depends on -/

section
variable {table : Effect → Option HomeserverError}
  (hfixed : ctx.homeserver.Refuses table)

/-- How a mutation is planned depends on what is found for the entity of its request. -/
theorem plan_congr {m : Mutation} (hx : x.entity? = some e) (hm : x.mutation? ctx = some m)
    {s t : Store} (hagree : ∀ q : PolicyQuery, q.value = e → s.find q = t.find q) :
    m.plan ctx.watched s = m.plan ctx.watched t := by
  have hvalue : (m.query ctx.watched).value = e :=
    (m.query_value ctx.watched).trans (mutation?_spec hx hm).2
  rw [Mutation.plan, Mutation.plan, hagree _ hvalue]

/-- What a request plans depends on what is found for its entity. -/
theorem planned?_congr (hx : x.entity? = some e) {s t : Store}
    (hagree : ∀ q : PolicyQuery, q.value = e → s.find q = t.find q) :
    x.planned? ctx s = x.planned? ctx t := by
  unfold planned?
  cases hm : x.mutation? ctx with
  | none => rfl
  | some m => rw [Option.bind_some, Option.bind_some, plan_congr hx hm hagree]

include hfixed

/-- **What a request comes to depends on what is found for its entity**, and on nothing else. -/
theorem run_congr (hx : x.entity? = some e) {w v : World σ}
    (hagree : ∀ q : PolicyQuery, q.value = e → w.store.find q = v.store.find q) :
    (x.run ctx w).1.eventless = (x.run ctx v).1.eventless := by
  cases hm : x.mutation? ctx with
  | none => exact congrArg ChangeResult.eventless ((run_unresolved hx hm w).2 v hagree)
  | some m =>
    obtain ⟨actor, hrun⟩ := run_mutation hm
    have hsame : m.plan ctx.watched w.store = m.plan ctx.watched v.store :=
      plan_congr hx hm hagree
    rw [(hrun w).1, (hrun v).1]
    cases hplan : m.plan ctx.watched w.store with
    | error conflict =>
      rw [Mutation.run_refused hplan, Mutation.run_refused (hsame.symm.trans hplan)]
    | ok p =>
      rw [Mutation.run_planned hplan, Mutation.run_planned (hsame.symm.trans hplan)]
      have hw := hfixed m.list.roomId m.kind p.stateKey p.content w.server
      have hv := hfixed m.list.roomId m.kind p.stateKey p.content v.server
      cases htable : table (.publish m.list.roomId m.kind p.stateKey p.content) with
      | some failure =>
        rw [htable] at hw hv
        have haw : m.answer ctx p w = .error failure := hw
        have hav : m.answer ctx p v = .error failure := hv
        rw [haw, hav]
      | none =>
        rw [htable] at hw hv
        obtain ⟨eventId, haw⟩ : ∃ eventId, m.answer ctx p w = .ok eventId := hw
        obtain ⟨eventId', hav⟩ : ∃ eventId, m.answer ctx p v = .ok eventId := hv
        rw [haw, hav]
        cases x <;> rfl

end

/-! ### What a request leaves behind -/

/-- The record that a request leaves behind, at no time in particular, if it leaves one and what is
refused is in a table. -/
def recorded? (ctx : Context σ) (table : Effect → Option HomeserverError) (x : ChangeRequest)
    (store : Store) : Option PolicyRecord :=
  (x.planned? ctx store).bind fun (m, p) =>
    if (table (m.effect p)).isSome then none else some (m.record p ctx.settings.botUser 0)

/-- The records after a request, apart from their times. -/
theorem records?_run {table : Effect → Option HomeserverError}
    (hfixed : ctx.homeserver.Refuses table) (hx : x.entity? = some e) {w : World σ}
    {records : List PolicyRecord} (hs : w.store.records? = some records) (hk : Keyed records) :
    ∃ records', (x.run ctx w).2.store.records? = some records' ∧ Keyed records' ∧
      records'.map PolicyRecord.undated =
        (x.recorded? ctx table w.store).elim (records.map PolicyRecord.undated)
          fun r => publishRecord r (records.map PolicyRecord.undated) := by
  cases hplanned : x.planned? ctx w.store with
  | none =>
    have hnone : x.recorded? ctx table w.store = none := by rw [recorded?, hplanned]; rfl
    rw [hnone, (run_unplanned hx hplanned).store]
    exact ⟨records, hs, hk, rfl⟩
  | some sent =>
    obtain ⟨m, p⟩ := sent
    obtain ⟨actor, hstore, -⟩ := run_planned hplanned
    have hanswer := hfixed m.list.roomId m.kind p.stateKey p.content w.server
    have hrecorded : x.recorded? ctx table w.store =
        if (table (.publish m.list.roomId m.kind p.stateKey p.content)).isSome then none
        else some (m.record p ctx.settings.botUser 0) := by
      rw [recorded?, hplanned]
      rfl
    rw [hrecorded, hstore]
    cases htable : table (.publish m.list.roomId m.kind p.stateKey p.content) with
    | some failure =>
      rw [htable] at hanswer
      rw [World.published_store_of_error hanswer actor]
      exact ⟨records, hs, hk, rfl⟩
    | none =>
      rw [htable] at hanswer
      obtain ⟨eventId, hok⟩ : ∃ eventId, m.answer ctx p w = .ok eventId := hanswer
      rw [World.published_store_of_ok hok actor]
      refine ⟨_, Mutation.records?_recordIn hs hk m p _ _, keyed_publishRecord _ hk, ?_⟩
      rw [publishRecord_undated]
      rfl

section
variable {texts : List String} (hcf : CollisionFree (texts.flatMap hashedTexts))
  {records : List PolicyRecord} (hs : w.store.records? = some records) (ht : Tidy texts records)
  (hx : x.entity? = some e) (he : e ∈ texts)
include hcf hs ht hx he

/-- What a request leaves behind has a key of its entity. -/
theorem recorded?_key {table : Effect → Option HomeserverError} {r : PolicyRecord}
    (hr : x.recorded? ctx table w.store = some r) :
    ∃ recommendation, r.stateKey = derivedStateKey e (some recommendation) := by
  obtain ⟨⟨m, p⟩, hplanned, hrecord⟩ := Option.bind_eq_some_iff.1 hr
  obtain ⟨hm, hplan⟩ := planned?_eq_some.1 hplanned
  obtain ⟨hissued, rfl⟩ := mutation?_spec hx hm
  have hfits := Mutation.fits_of_plan hcf hs ht he hissued hplan
  dsimp only at hrecord
  split at hrecord
  · cases hrecord
  · cases hrecord
    exact hfits.key

/-- **A request does not change what is found for another entity**, unless its own covers that
one. -/
theorem find_run (hglob : Glob.isGlob e = false) {q : PolicyQuery} (hv : q.value ∈ texts)
    (hne : e ≠ q.value) : (x.run ctx w).2.store.find q = w.store.find q := by
  cases hplanned : x.planned? ctx w.store with
  | none => rw [(run_unplanned hx hplanned).store]
  | some sent =>
    obtain ⟨m, p⟩ := sent
    obtain ⟨actor, hstore, -⟩ := run_planned hplanned
    obtain ⟨hm, hplan⟩ := planned?_eq_some.1 hplanned
    obtain ⟨hissued, rfl⟩ := mutation?_spec hx hm
    have hfits := Mutation.fits_of_plan hcf hs ht he hissued hplan
    rw [hstore]
    cases ha : m.answer ctx p w with
    | error failure => rw [World.published_store_of_error ha]
    | ok eventId =>
      rw [World.published_store_of_ok ha,
        Store.find_eq_filter (Mutation.records?_recordIn hs ht.keyed m p _ _),
        Store.find_eq_filter hs]
      refine filter_publishRecord (fun hrule => ?_) fun old hold hkey => ?_
      · exact (hfits.isOf hrule _ _).not_accepts hcf he hglob hv hne
      · -- The record that gives way has a key of the entity, and so it is of the entity.
        obtain ⟨owner, howner, hof⟩ := ht.owned old hold
        obtain ⟨_, holdKey⟩ := hof.key
        obtain ⟨_, hnewKey⟩ := hfits.key
        simp only [PolicyRecord.key, Mutation.record, Prod.mk.injEq] at hkey
        obtain ⟨rfl, -⟩ := derivedStateKey_inj hcf howner he
          (holdKey.symm.trans (hkey.2.2.trans hnewKey))
        exact hof.not_accepts hcf he hglob hv hne

end

theorem recorded?_congr (table : Effect → Option HomeserverError) (hx : x.entity? = some e)
    {s t : Store} (hagree : ∀ q : PolicyQuery, q.value = e → s.find q = t.find q) :
    x.recorded? ctx table s = x.recorded? ctx table t := by
  rw [recorded?, recorded?, planned?_congr hx hagree]

/-! ## Two requests -/

/-- Records that are left behind under different keys can be left in either order. -/
theorem perm_of_recorded {o o' : Option PolicyRecord} {records : List PolicyRecord}
    (hk : Keyed records) (hne : ∀ r ∈ o, ∀ r' ∈ o', r.key ≠ r'.key) :
    (o'.elim (o.elim records fun r => publishRecord r records) fun r' =>
        publishRecord r' (o.elim records fun r => publishRecord r records)).Perm
      (o.elim (o'.elim records fun r' => publishRecord r' records) fun r =>
        publishRecord r (o'.elim records fun r' => publishRecord r' records)) := by
  cases o with
  | none => exact .refl _
  | some r =>
    cases o' with
    | none => exact .refl _
    | some r' => exact publishRecord_comm hk (hne r rfl r' rfl).symm

/-- **Requests about different entities can be carried out in either order**, in a world whose
records are tidy, where the homeserver refuses publications by a table of errors and no wildcard is
in either entity. -/
theorem run_comm {table : Effect → Option HomeserverError} (hfixed : ctx.homeserver.Refuses table)
    {texts : List String} (hcf : CollisionFree (texts.flatMap hashedTexts))
    {records : List PolicyRecord} (hs : w.store.records? = some records) (ht : Tidy texts records)
    {e' : String} (hx : x.entity? = some e) (hy : y.entity? = some e') (hne : e ≠ e')
    (he : e ∈ texts) (he' : e' ∈ texts) (hglob : Glob.isGlob e = false)
    (hglob' : Glob.isGlob e' = false) :
    let xy := y.run ctx (x.run ctx w).2
    let yx := x.run ctx (y.run ctx w).2
    (yx.1.eventless = (x.run ctx w).1.eventless ∧ xy.1.eventless = (y.run ctx w).1.eventless) ∧
    (∃ xs ys, (x.run ctx w).2.publications = w.publications ++ xs ∧
      (y.run ctx w).2.publications = w.publications ++ ys ∧
      xy.2.publications = w.publications ++ xs ++ ys ∧
      yx.2.publications = w.publications ++ ys ++ xs) ∧
    ∃ after after', xy.2.store.records? = some after ∧ yx.2.store.records? = some after' ∧
      (after.map PolicyRecord.undated).Perm (after'.map PolicyRecord.undated) := by
  intro xy yx
  have hseesY : ∀ q : PolicyQuery, q.value = e' →
      (x.run ctx w).2.store.find q = w.store.find q := by
    rintro q rfl
    exact find_run hcf hs ht hx he hglob he' hne
  have hseesX : ∀ q : PolicyQuery, q.value = e →
      (y.run ctx w).2.store.find q = w.store.find q := by
    rintro q rfl
    exact find_run hcf hs ht hy he' hglob' he hne.symm
  refine ⟨⟨run_congr hfixed hx hseesX, run_congr hfixed hy hseesY⟩, ?_, ?_⟩
  · refine ⟨_, _, run_publications hx w, run_publications hy w, ?_, ?_⟩
    · rw [run_publications hy, run_publications hx, planned?_congr hy hseesY]
    · rw [run_publications hx, run_publications hy, planned?_congr hx hseesX]
  · obtain ⟨xs, hxs, hkx, hundatedX⟩ := records?_run hfixed hx hs ht.keyed
    obtain ⟨ys, hys, hky, hundatedY⟩ := records?_run hfixed hy hs ht.keyed
    obtain ⟨after, hafter, -, hundated⟩ := records?_run hfixed hy hxs hkx
    obtain ⟨after', hafter', -, hundated'⟩ := records?_run hfixed hx hys hky
    refine ⟨after, after', hafter, hafter', ?_⟩
    rw [hundated, hundated', hundatedX, hundatedY, recorded?_congr table hy hseesY,
      recorded?_congr table hx hseesX]
    have hkeyed : Keyed (records.map PolicyRecord.undated) := by
      unfold Keyed
      rw [List.map_map]
      exact ht.keyed
    refine perm_of_recorded hkeyed fun r hr r' hr' hkey => hne ?_
    obtain ⟨_, hrkey⟩ := recorded?_key hcf hs ht hx he hr
    obtain ⟨_, hrkey'⟩ := recorded?_key hcf hs ht hy he' hr'
    have hstate : r.stateKey = r'.stateKey := congrArg (·.2.2) hkey
    exact (derivedStateKey_inj hcf he he' (hrkey.symm.trans (hstate.trans hrkey'))).1

end ChangeRequest

namespace Session

/-- **Independent requests commute.**  Let a session of requests begin with a store that holds
nothing, and let two requests be about different entities with no wildcard in them, in any world
that has the store that the session leaves.  If the homeserver refuses publications by a table of
errors, then each of the two comes to the same, whichever is carried out first, apart from the
events of rules; the same is published for each; and the same records stand afterwards, apart from
their order and their times. -/
theorem requests_commute {σ₀ : Type} (ctx₀ : Context σ₀) {w₀ : World σ₀}
    (hempty : w₀.store.records? = some []) {before : List Message}
    (hreq : ∀ message ∈ before, message.isRequest = true) {table : Effect → Option HomeserverError}
    (hfixed : ctx.homeserver.Refuses table) (hw : w.store = (run ctx₀ before w₀).2.store)
    {x y : ChangeRequest} {e e' : String} (hx : x.entity? = some e) (hy : y.entity? = some e')
    (hne : e ≠ e') (hglob : Glob.isGlob e = false) (hglob' : Glob.isGlob e' = false)
    (hcf : CollisionFree ((e :: e' :: entities ctx₀ before w₀).flatMap hashedTexts)) :
    let xy := y.run ctx (x.run ctx w).2
    let yx := x.run ctx (y.run ctx w).2
    (yx.1.eventless = (x.run ctx w).1.eventless ∧ xy.1.eventless = (y.run ctx w).1.eventless) ∧
    (∃ xs ys, (x.run ctx w).2.publications = w.publications ++ xs ∧
      (y.run ctx w).2.publications = w.publications ++ ys ∧
      xy.2.publications = w.publications ++ xs ++ ys ∧
      yx.2.publications = w.publications ++ ys ++ xs) ∧
    ∃ after after', xy.2.store.records? = some after ∧ yx.2.store.records? = some after' ∧
      (after.map PolicyRecord.undated).Perm (after'.map PolicyRecord.undated) := by
  have hsound : Sound (e :: e' :: entities ctx₀ before w₀) [] w₀ := ⟨hempty, tidy_nil _⟩
  obtain ⟨records, hs, ht⟩ := hsound.run hcf hreq fun _ hmem =>
    List.mem_cons_of_mem _ (List.mem_cons_of_mem _ hmem)
  rw [← hw] at hs
  exact ChangeRequest.run_comm hfixed hcf hs ht hx hy hne List.mem_cons_self
    (List.mem_cons_of_mem _ List.mem_cons_self) hglob hglob'

/-- A ban of one user by a command and of another by a report. -/
theorem requests_commute_ban_and_report :
    let x : ChangeRequest := .command (.ban false false "bans" "@a:b" "spam") "@admin:example.org"
    let y : ChangeRequest := .report "@admin:example.org" "@c:d" "bans" "spam"
    let xy := y.run Context.small (x.run Context.small World.small).2
    let yx := x.run Context.small (y.run Context.small World.small).2
    Context.small.homeserver.Refuses (fun _ => none) ∧
    xy.1.eventless = (y.run Context.small World.small).1.eventless ∧
    ∃ after after', xy.2.store.records? = some after ∧ yx.2.store.records? = some after' ∧
      (after.map PolicyRecord.undated).Perm (after'.map PolicyRecord.undated) := by
  intro x y xy yx
  have hfixed : Context.small.homeserver.Refuses (fun _ => none) :=
    fun _ _ _ _ _ => ⟨"$event", rfl⟩
  have hempty : World.small.store.records? = some [] := rfl
  have hreq : ∀ message ∈ ([] : List Message), message.isRequest = true := by simp
  have hw : World.small.store = (run Context.small [] World.small).2.store := rfl
  have hx : x.entity? = some "@a:b" := rfl
  have hy : y.entity? = some "@c:d" := rfl
  have hcf : CollisionFree (("@a:b" :: "@c:d" :: entities Context.small [] World.small).flatMap
      hashedTexts) :=
    collisionFree_hashedTexts_users
  obtain ⟨⟨-, hresult⟩, -, hrecords⟩ := requests_commute Context.small hempty hreq hfixed hw hx hy
    (by decide) (by decide) (by decide) hcf
  exact ⟨hfixed, hresult, hrecords⟩

end Session
end Moderation

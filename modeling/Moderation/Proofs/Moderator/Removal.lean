import Moderation.Proofs.Moderator.Placing
import Moderation.Proofs.Moderator.StandingUnban
/-!
# What a removal takes away

A removal looks at the records of its list that are of its kind and on its entity, named or hidden
(`Mutation.filter_query`).  In a session that begins with a store that holds nothing, and takes
commands and reports only, there is at most one.  If there is none the removal fails, and so it does
if that one recommends something else than is to be removed.  Otherwise a tombstone is published
under the key of that one; then it is gone, and the others stand as they did
(`Session.removal_exact`).
-/

namespace Moderation

/-- Whether a removal takes a rule away: one that recommends exactly what the removal expects, or
any rule if it expects nothing. -/
def RemovalKind.takes (kind : RemovalKind) (r : PolicyRecord) : Bool :=
  kind.expected.all fun expected => r.recommendation = some expected

namespace Decision

variable {entity : String} {kind : RemovalKind}

theorem removal_nil : removal [] entity kind = .error (.nothingToRemove entity) := rfl

/-- A removal looks at a rule that stands alone, whatever it recommends. -/
theorem removal_singleton (r : PolicyRecord) :
    removal [r] entity kind =
      match kind.expected with
      | some expected =>
        if r.recommendation = some expected then .ok r.stateKey
        else .error (.recommendationMismatch entity expected)
      | none => .ok r.stateKey := by
  have hdeciding : (PolicySummary.ofRecords [r]).deciding.or [r].head? = some r := by
    rw [PolicySummary.deciding_ofRecords]
    cases hunban : PolicySummary.recommendsUnban r <;>
      cases hban : PolicySummary.recommendsBan r <;> simp [hunban, hban]
  unfold removal
  cases kind.expected <;> simp only [hdeciding]

theorem removal_of_takes {r : PolicyRecord} (h : kind.takes r = true) :
    removal [r] entity kind = .ok r.stateKey := by
  rw [removal_singleton]
  unfold RemovalKind.takes at h
  cases hexpected : kind.expected with
  | none => rfl
  | some expected =>
    rw [hexpected] at h
    exact if_pos (by simpa using h)

theorem removal_of_not_takes {r : PolicyRecord} (h : kind.takes r = false) :
    ∃ expected, kind.expected = some expected ∧
      removal [r] entity kind = .error (.recommendationMismatch entity expected) := by
  rw [removal_singleton]
  unfold RemovalKind.takes at h
  cases hexpected : kind.expected with
  | none =>
    rw [hexpected] at h
    cases h
  | some expected =>
    rw [hexpected] at h
    exact ⟨expected, rfl, if_neg (by simpa using h)⟩

end Decision

namespace Mutation

variable {m : Mutation} {kind : RemovalKind} {records : List PolicyRecord} {store : Store}
  {watched texts : List String}

/-- **What the query of a removal finds are the records on its entity.** -/
theorem filter_query (hm : m.change = .remove kind) (hne : m.entity ≠ "")
    (hrule : ∀ r ∈ records, r.content.isTombstone = false) :
    records.filter (m.query watched).accepts = m.recordsOn records := by
  refine List.filter_congr fun r hr => ?_
  have hconcerns : r.content.concerns .exact m.entity = r.content.targets m.entity := by
    rw [Bool.eq_iff_iff]
    exact ⟨PolicyContent.targets_of_concerns,
      fun h => PolicyContent.concerns_of_targets h (hrule r hr) hne .exact⟩
  simp only [query, hm, PolicyQuery.accepts, isOn, hconcerns, Option.all_some,
    List.mem_singleton]
  rw [Bool.and_comm (r.kind = m.kind : Bool)]

/-- What a removal plans is what it decides of the records on its entity. -/
theorem plan_of_remove (hm : m.change = .remove kind) (hne : m.entity ≠ "")
    (hs : store.records? = some records)
    (hrule : ∀ r ∈ records, r.content.isTombstone = false) :
    m.plan watched store =
      (Decision.removal (m.recordsOn records) m.entity kind).map fun key =>
        .removal m.entity (some key) := by
  rw [plan, Store.find_eq_filter hs, filter_query hm hne hrule, decide, hm]

/-- Of tidy records at most one is on the entity. -/
theorem recordsOn_eq_singleton (hcf : CollisionFree (texts.flatMap hashedTexts))
    (ht : Tidy texts records) (hne : m.entity ≠ "") {r : PolicyRecord}
    (hr : r ∈ m.recordsOn records) : m.recordsOn records = [r] := by
  have hlength : (m.recordsOn records).length ≤ 1 :=
    ht.length_filter_le_one hcf m.list.roomId m.kind hne
  obtain ⟨other, hother⟩ := List.length_eq_one_iff.1
    (Nat.le_antisymm hlength (List.length_pos_of_mem hr))
  rw [hother] at hr ⊢
  rw [List.mem_singleton.1 hr]

/-- The record that stands alone on the entity is the one under its key. -/
theorem filter_key_ne (hk : Keyed records) {r : PolicyRecord} (hr : m.recordsOn records = [r]) :
    records.filter (·.key ≠ r.key) = records.filter fun p => !m.isOn p := by
  refine List.filter_congr fun p hp => ?_
  have hmem {q : PolicyRecord} : q ∈ records ∧ m.isOn q = true ↔ q = r := by
    rw [← List.mem_filter, ← List.mem_singleton, ← hr]
    rfl
  have hiff : p.key = r.key ↔ m.isOn p = true := by
    constructor
    · intro hkey
      rw [List.inj_on_of_nodup_map hk hp (hmem.2 rfl).1 hkey]
      exact (hmem.2 rfl).2
    · exact fun hon => congrArg PolicyRecord.key (hmem.1 ⟨hp, hon⟩)
  cases hon : m.isOn p <;> simp [hiff, hon]

end Mutation

/-! ## In a session -/

namespace Session

variable {σ : Type} {ctx : Context σ} {w : World σ} {texts : List String}
  {records : List PolicyRecord}

section
variable (hcf : CollisionFree (texts.flatMap hashedTexts)) (h : Sound texts records w)
  {m : Mutation} {kind : RemovalKind} (hm : m.change = .remove kind) (hne : m.entity ≠ "")
include h hm hne

theorem Sound.plan_removal (watched : List String) :
    m.plan watched w.store =
      (Decision.removal (m.recordsOn records) m.entity kind).map fun key =>
        .removal m.entity (some key) := by
  refine Mutation.plan_of_remove hm hne h.holds fun r hr => ?_
  obtain ⟨_, -, hof⟩ := h.tidy.owned r hr
  exact hof.rule

/-- **A removal that finds nothing fails** and changes nothing. -/
theorem Sound.run_removal_of_none (hnone : m.recordsOn records = []) (actor : String) :
    m.run ctx actor w = (.error (.conflict (.nothingToRemove m.entity)), w) := by
  refine Mutation.run_refused ?_ actor
  rw [h.plan_removal hm hne, hnone, Decision.removal_nil]
  rfl

include hcf

/-- **A removal that finds a rule of another sort fails** and changes nothing. -/
theorem Sound.run_removal_of_not_takes {r : PolicyRecord} (hr : r ∈ m.recordsOn records)
    (htakes : kind.takes r = false) (actor : String) :
    ∃ expected, kind.expected = some expected ∧
      m.run ctx actor w =
        (.error (.conflict (.recommendationMismatch m.entity expected)), w) := by
  obtain ⟨expected, hexpected, hrefused⟩ : ∃ expected, kind.expected = some expected ∧
      Decision.removal [r] m.entity kind = .error (.recommendationMismatch m.entity expected) :=
    Decision.removal_of_not_takes htakes
  refine ⟨expected, hexpected, Mutation.run_refused ?_ actor⟩
  rw [h.plan_removal hm hne, Mutation.recordsOn_eq_singleton hcf h.tidy hne hr, hrefused]
  rfl

/-- **A removal that finds its rule takes it away** and leaves the others in their order. -/
theorem Sound.run_removal_of_takes {r : PolicyRecord} (hr : r ∈ m.recordsOn records)
    (htakes : kind.takes r = true) (actor : String)
    (hanswer : ∃ eventId,
      (ctx.homeserver.publish m.list.roomId m.kind r.stateKey .tombstone w.server).1 =
        .ok eventId) :
    ∃ done, (m.run ctx actor w).1 = .ok done ∧
      (m.run ctx actor w).2.publications =
        w.publications ++ [.publish m.list.roomId m.kind r.stateKey .tombstone] ∧
      (m.run ctx actor w).2.store.records? = some (records.filter fun p => !m.isOn p) := by
  have hsingle := Mutation.recordsOn_eq_singleton hcf h.tidy hne hr
  obtain ⟨hmem, hl, hk, -⟩ := Mutation.mem_recordsOn.1 hr
  obtain ⟨e, -, hof⟩ := h.tidy.owned r hmem
  obtain ⟨p, hp, hkey, hcontent⟩ : ∃ p : Publication, m.plan ctx.watched w.store = .ok p ∧
      p.stateKey = r.stateKey ∧ p.content = .tombstone := by
    refine ⟨.removal m.entity (some r.stateKey), ?_, Mutation.stateKeyFor_isOf hof _ _, rfl⟩
    rw [h.plan_removal hm hne, hsingle, Decision.removal_of_takes htakes]
    rfl
  obtain ⟨eventId, hanswer⟩ := hanswer
  have ha : m.answer ctx p w = .ok eventId := by
    rw [Mutation.answer, hkey, hcontent, hanswer]
  rw [Mutation.run_planned hp, ha]
  refine ⟨_, rfl, ?_, ?_⟩
  · rw [World.publications_published, Mutation.effect, hkey, hcontent]
  · -- What stands under the key of the tombstone is the record, and that is all it takes away.
    have hrecord : ((m.record p ctx.settings.botUser (ctx.moment w.ticks).now)).key = r.key :=
      (Mutation.Placed.key_record _ _ hr hkey.symm).symm
    have htomb : (m.record p ctx.settings.botUser (ctx.moment w.ticks).now).content.isTombstone =
        true := by
      rw [Mutation.record, hcontent]
      rfl
    rw [World.published_store_of_ok ha, Mutation.records?_recordIn h.holds h.tidy.keyed,
      publishRecord_eq_filter h.tidy.keyed htomb, hrecord,
      Mutation.filter_key_ne h.tidy.keyed hsingle]

end

/-- What a command to remove a rule comes to, by the records that stand before it: its result, its
status and the world afterwards. -/
inductive Removal (ctx : Context σ) (m : Mutation) (kind : RemovalKind)
    (records : List PolicyRecord) (w : World σ) :
    Except CommandError Acknowledgement → CommandStatus → World σ → Prop
  /-- There is no rule on the entity: a notice says so, and that is all. -/
  | nothing (hnone : m.recordsOn records = []) :
    Removal ctx m kind records w (.error (.nothingToRemove m.entity m.list)) .failed
      (w.shown ctx (CommandError.nothingToRemove m.entity m.list).message)
  /-- The rule on the entity recommends something else: a notice says so, and that is all. -/
  | mismatched {r : PolicyRecord} {expected : Recommendation} (hr : m.recordsOn records = [r])
      (hexpected : kind.expected = some expected) (hother : r.recommendation ≠ some expected) :
    Removal ctx m kind records w (.error (.conflict (.recommendationMismatch m.entity expected)))
      .failed (w.shown ctx (Conflict.recommendationMismatch m.entity expected).message)
  /-- The rule is taken away by a tombstone under its key; the others stay in their order. -/
  | removed {r : PolicyRecord} {v : World σ} (hr : m.recordsOn records = [r])
      (htakes : kind.takes r = true)
      (hpublications : v.publications =
        w.publications ++ [.publish m.list.roomId m.kind r.stateKey .tombstone])
      (hrecords : v.store.records? = some (records.filter fun p => !m.isOn p)) :
    Removal ctx m kind records w (.ok .reaction) .completed v

theorem Removal.completed_iff {m : Mutation} {kind : RemovalKind} {v : World σ}
    {result : Except CommandError Acknowledgement} {status : CommandStatus}
    (h : Removal ctx m kind records w result status v) :
    status = .completed ↔ ∃ r ∈ m.recordsOn records, kind.takes r = true := by
  cases h with
  | nothing hnone => simp [hnone]
  | mismatched hr hexpected hother => simp [hr, RemovalKind.takes, hexpected, hother]
  | removed hr htakes => simp [hr, htakes]

/-- What a command to remove a rule comes to while the records are tidy. -/
theorem Sound.handle_removal (hcf : CollisionFree (texts.flatMap hashedTexts))
    (h : Sound texts records w) {c : CommandMessage} {kind : RemovalKind}
    {shortcode entity : String} {list : WatchedList} {k : EntityKind}
    (hgate : Commands.gateOf ctx c = .pass)
    (hparse : Command.parse c.body = .ok (some (.remove kind shortcode entity)))
    (hlist : ctx.listNamed shortcode = some list) (hclass : Entity.classify entity = some k)
    (hanswer : ∀ key, ∃ eventId,
      (ctx.homeserver.publish list.roomId k key .tombstone w.server).1 = .ok eventId) :
    Removal ctx { list, kind := k, entity, change := .remove kind } kind records w
      (Commands.execute ctx c.sender (.remove kind shortcode entity) w).1
      (Commands.handle ctx c w).1 (Commands.handle ctx c w).2 := by
  obtain ⟨m, hm⟩ : ∃ m : Mutation, m = { list, kind := k, entity, change := .remove kind } :=
    ⟨_, rfl⟩
  have hne : m.entity ≠ "" := by
    rw [hm]
    exact Entity.ne_empty_of_classify hclass
  have hchange : m.change = .remove kind := by rw [hm]
  have hmutation : Commands.mutation ctx shortcode entity (.remove kind) = .ok m :=
    Commands.mutation_eq_ok.2 ⟨list, k, hlist, hclass, hm⟩
  rw [← hm, Commands.handle_of_pass hgate hparse, Commands.execute_of_change rfl,
    Commands.mutate_eq hmutation]
  cases hon : m.recordsOn records with
  | nil =>
    rw [h.run_removal_of_none hchange hne hon]
    exact .nothing hon
  | cons r rest =>
    have hr : r ∈ m.recordsOn records := hon ▸ List.mem_cons_self
    have hsingle := Mutation.recordsOn_eq_singleton hcf h.tidy hne hr
    cases htakes : kind.takes r with
    | false =>
      obtain ⟨expected, hexpected, hrun⟩ : ∃ expected, kind.expected = some expected ∧
          m.run ctx c.sender w =
            (.error (.conflict (.recommendationMismatch m.entity expected)), w) :=
        h.run_removal_of_not_takes hcf hchange hne hr htakes c.sender
      rw [hrun]
      refine .mismatched hsingle hexpected ?_
      simpa [RemovalKind.takes, hexpected] using htakes
    | true =>
      have hwilling : ∃ eventId,
          (ctx.homeserver.publish m.list.roomId m.kind r.stateKey .tombstone w.server).1 =
            .ok eventId := by
        rw [hm]
        exact hanswer r.stateKey
      obtain ⟨done, hdone, hpublications, hrecords⟩ :=
        h.run_removal_of_takes hcf hchange hne hr htakes c.sender hwilling
      rw [hdone]
      -- To acknowledge the command publishes nothing more.
      have hkeeps : Act.Preserves (m.run ctx c.sender w).2.Still
          (Commands.acknowledge ctx c (.ok .reaction)) :=
        Commands.acknowledge_keeps (World.still_keeps _) (.ok .reaction)
      have hstill := hkeeps _ (.refl _)
      exact .removed hsingle htakes (hstill.publications.trans hpublications)
        (hstill.store ▸ hrecords)

/-- **Removals are exact.**  In a session that began with a store that holds nothing, a command to
remove a rule completes exactly if its list holds a rule on the entity, named or hidden, that
recommends what is to be removed.  Then that rule is taken away by a tombstone under its key, and
the records that are not on the entity stay in their order.  If the list holds no rule on the
entity, or one that recommends something else, the command says which and does nothing. -/
theorem removal_exact {before : List Message} {c : CommandMessage} {kind : RemovalKind}
    {shortcode entity : String} {list : WatchedList} {k : EntityKind}
    (hempty : w.store.records? = some [])
    (hreq : ∀ message ∈ before, message.isRequest = true)
    (hgate : Commands.gateOf ctx c = .pass)
    (hparse : Command.parse c.body = .ok (some (.remove kind shortcode entity)))
    (hlist : ctx.listNamed shortcode = some list) (hclass : Entity.classify entity = some k)
    (hanswer : ∀ key, ∃ eventId, (ctx.homeserver.publish list.roomId k key .tombstone
      (run ctx before w).2.server).1 = .ok eventId)
    (hcf : CollisionFree ((entities ctx before w).flatMap hashedTexts)) :
    let m : Mutation := { list, kind := k, entity, change := .remove kind }
    let reached := (run ctx before w).2
    let executed := Commands.execute ctx c.sender (.remove kind shortcode entity) reached
    let handled := Commands.handle ctx c reached
    ∃ records, reached.store.records? = some records ∧
      (handled.1 = .completed ↔ ∃ r ∈ m.recordsOn records, kind.takes r = true) ∧
      Removal ctx m kind records reached executed.1 handled.1 handled.2 := by
  intro m reached executed handled
  have hsound : Sound (entities ctx before w) [] w := ⟨hempty, tidy_nil _⟩
  obtain ⟨records, h⟩ := hsound.run hcf hreq fun _ he => he
  have hremoval := h.handle_removal hcf hgate hparse hlist hclass hanswer
  exact ⟨records, h.holds, hremoval.completed_iff, hremoval⟩

/-- A user is banned, behind its digest, and the ban is removed. -/
theorem removal_exact_hashed :
    let before : List Message := [.command (.small "!ban --hash bans @a:b spam")]
    let c : CommandMessage := .small "!remove-ban bans @a:b"
    let m : Mutation :=
      { list := { roomId := "!list:example.org", shortcode := "bans", name := "Bans" },
        kind := .user, entity := "@a:b", change := .remove .ban }
    let reached := (run Context.small before World.small).2
    let executed := Commands.execute Context.small c.sender (.remove .ban "bans" "@a:b") reached
    let handled := Commands.handle Context.small c reached
    handled.1 = .completed ∧ ∃ records, reached.store.records? = some records ∧
      (handled.1 = .completed ↔
        ∃ r ∈ m.recordsOn records, RemovalKind.takes .ban r = true) ∧
      Removal Context.small m .ban records reached executed.1 handled.1 handled.2 := by
  intro before c m reached executed handled
  have hparse : Command.parse "!remove-ban bans @a:b" =
      .ok (some (.remove .ban "bans" "@a:b")) := by
    decide +kernel
  have hentities : entities Context.small before World.small = ["@a:b"] := by decide +kernel
  have hdone : handled.1 = .completed := by decide +kernel
  refine ⟨hdone, removal_exact rfl ?_ rfl hparse rfl rfl (fun key => ⟨"$event", rfl⟩) ?_⟩
  · simp [before, Message.isRequest]
  · rw [hentities]
    exact collisionFree_hashedTexts_user.mono (by simp)

end Session
end Moderation

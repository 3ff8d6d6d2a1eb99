import Moderation.Proofs.Moderator.Session
import Moderation.Proofs.Moderator.Placing
/-!
# How the records of a list are kept

Whatever messages are taken, rules that are ingested among them, the records of a store stay orderly
(`Session.run_orderly`).  A request then either leaves them as they are, or publishes to them what
its mutation plans, which is placed (`Session.exists_placed`).

So of the records that a list holds of a kind on an entity there come to be none but a first one,
and one goes only if it is removed (`Session.count_on_entity`).  Other records stay, unless one
stands under the very key that is derived for the entity (`Session.others_stay`): a rule that is
ingested may stand under any key, and nothing is asked about the key of a new rule before it is
published.
-/

namespace Moderation

variable {σ : Type} {ctx : Context σ} {w : World σ} {records : List PolicyRecord}

namespace Service

/-- A rule that is ingested is published to the records if it lacks nothing. -/
theorem takePolicy_orderly (hs : w.store.records? = some records) (ho : Orderly records)
    (r : PolicyRecord) :
    ∃ records', (takePolicy r w).2.store.records? = some records' ∧ Orderly records' := by
  unfold takePolicy
  split
  · exact ⟨records, hs, ho⟩
  · next hlacks =>
    have hkey : r.stateKey ≠ "" := by
      intro hempty
      simp [hempty] at hlacks
    refine ⟨publishRecord r records, ?_, ho.publish hkey⟩
    rw [Act.bind_apply, Act.modify_apply]
    dsimp only
    split
    · exact Store.records?_publish ((Store.records?_remember _ _).trans hs) ho.keyed r
    · exact Store.records?_publish hs ho.keyed r

/-- A change in membership leaves the records as they are. -/
theorem takeMembership_records? (u : MembershipUpdate) (w : World σ) :
    (takeMembership u w).2.store.records? = w.store.records? := by
  unfold takeMembership
  split
  · rfl
  · have hremembered (users : List String) (store : Store) :
        (users.foldl (fun store user => store.remember user) store).records? = store.records? := by
      induction users generalizing store with
      | nil => rfl
      | cons user users ih => exact (ih _).trans (Store.records?_remember store user)
    exact hremembered u.joined w.store

end Service

namespace Session

variable {message : Message}

/-- What is done for a request is placed, and is published to the records. -/
theorem exists_placed {m : Mutation} (hs : w.store.records? = some records) (ho : Orderly records)
    (hasked : asked? ctx message w = some m) (hdone : (take ctx message w).1.isDone = true) :
    ∃ p timestamp, m.plan ctx.watched w.store = .ok p ∧ m.Placed records p ∧
      (take ctx message w).2.store.records? =
        some (publishRecord (m.record p ctx.settings.botUser timestamp) records) ∧
      (take ctx message w).2.publications = w.publications ++ [m.effect p] := by
  obtain ⟨p, timestamp, hplan, hstore, hpublications⟩ := exists_done hasked hdone
  have hplaced := Mutation.placed_of_plan hs ho (issued_of_asked? hasked) hplan
  refine ⟨p, timestamp, hplan, hplaced, ?_, hpublications⟩
  rw [hstore]
  exact Mutation.records?_recordIn hs ho.keyed _ _ _ _

/-- A request keeps the records orderly. -/
theorem request_orderly (ctx : Context σ) (hs : w.store.records? = some records)
    (ho : Orderly records) (hreq : message.isRequest = true) :
    ∃ records', (take ctx message w).2.store.records? = some records' ∧ Orderly records' := by
  by_cases hdone : (take ctx message w).1.isDone = true
  · cases hasked : asked? ctx message w with
    | none => exact ⟨records, by rw [store_of_nothing hreq (.inl hasked), hs], ho⟩
    | some m =>
      obtain ⟨p, timestamp, -, hplaced, hs', -⟩ := exists_placed hs ho hasked hdone
      exact ⟨_, hs', hplaced.orderly ho _ _⟩
  · have hfailed : (take ctx message w).1.isDone = false := by simpa using hdone
    exact ⟨records, by rw [store_of_nothing hreq (.inr hfailed), hs], ho⟩

/-- **Whatever message is taken, the records stay orderly.** -/
theorem take_orderly (ctx : Context σ) (hs : w.store.records? = some records) (ho : Orderly records)
    (message : Message) :
    ∃ records', (take ctx message w).2.store.records? = some records' ∧ Orderly records' := by
  match message with
  | .command c =>
    have hreq : (Message.command c).isRequest = true := rfl
    exact request_orderly ctx hs ho hreq
  | .report r =>
    have hreq : (Message.report r).isRequest = true := rfl
    exact request_orderly ctx hs ho hreq
  | .policy r => exact Service.takePolicy_orderly hs ho r
  | .membership u => exact ⟨records, (Service.takeMembership_records? u w).trans hs, ho⟩

/-- **A session keeps the records orderly**, and begins with such if the store holds nothing. -/
theorem run_orderly (ctx : Context σ) (hs : w.store.records? = some records) (ho : Orderly records)
    (messages : List Message) :
    ∃ records', (run ctx messages w).2.store.records? = some records' ∧ Orderly records' := by
  induction messages generalizing w records with
  | nil => exact ⟨records, hs, ho⟩
  | cons message messages ih =>
    obtain ⟨records', hs', ho'⟩ := take_orderly ctx hs ho message
    rw [run_cons]
    exact ih hs' ho'

end Session

/-- What a mutation that is done makes of the records on its entity.  A removal sends a tombstone
for one of them, which is gone then.  Any other mutation leaves as many as there were, and at least
one; if there was one, it takes the place of one of them. -/
def Mutation.Counts (m : Mutation) (records records' : List PolicyRecord) (p : Publication) :
    Prop :=
  match m.change with
  | .remove _ =>
    p.content = .tombstone ∧ (m.recordsOn records').length + 1 = (m.recordsOn records).length ∧
      ∃ old ∈ m.recordsOn records, old.stateKey = p.stateKey
  | _ =>
    (m.recordsOn records').length = max (m.recordsOn records).length 1 ∧
      (1 ≤ (m.recordsOn records).length → ∃ old ∈ m.recordsOn records, old.stateKey = p.stateKey)

/-- A publication that is placed counts as its mutation says. -/
theorem Mutation.Placed.counts {m : Mutation} {p : Publication} (h : m.Placed records p)
    (ho : Orderly records) (hne : m.entity ≠ "") (sender : String) (timestamp : Int64) :
    m.Counts records (publishRecord (m.record p sender timestamp) records) p := by
  have hlength := h.length_recordsOn ho sender timestamp hne
  unfold Counts
  cases hchange : m.change with
  | remove kind =>
    have htomb : p.content.isTombstone = true := by
      rw [PolicyContent.isTombstone, h.recommends, hchange]
      rfl
    rw [if_pos htomb] at hlength
    exact ⟨h.tombstone htomb, hlength, h.exists_over_of_tombstone htomb⟩
  | ban | reportBan | unban =>
    have hrule : ¬p.content.isTombstone = true := by
      rw [PolicyContent.isTombstone, h.recommends, hchange]
      simp [Change.recommendation?]
    rw [if_neg hrule] at hlength
    exact ⟨hlength, fun hsome => h.exists_over hne (List.length_pos_iff.1 hsome)⟩

namespace Session

/-- **How many records are on an entity.**  In a session that began with a store that holds nothing,
and in which rules may have been ingested at will, a request that does nothing leaves the records as
they are; and one that does what it asks for keeps count of the records in its list, of its kind and
on its entity. -/
theorem count_on_entity (ctx : Context σ) {message : Message} (hempty : w.store.records? = some [])
    (before : List Message) (hreq : message.isRequest = true) :
    ∃ records records', (run ctx before w).2.store.records? = some records ∧
      (take ctx message (run ctx before w).2).2.store.records? = some records' ∧
      (asked? ctx message (run ctx before w).2 = none ∨
        (take ctx message (run ctx before w).2).1.isDone = false → records' = records) ∧
      ∀ m, asked? ctx message (run ctx before w).2 = some m → m.entity ≠ "" →
        (take ctx message (run ctx before w).2).1.isDone = true →
        ∃ p, (take ctx message (run ctx before w).2).2.publications =
            (run ctx before w).2.publications ++ [m.effect p] ∧
          m.Counts records records' p := by
  obtain ⟨records, hs, ho⟩ := run_orderly ctx hempty orderly_nil before
  obtain ⟨records', hs', -⟩ := request_orderly ctx hs ho hreq
  refine ⟨records, records', hs, hs', fun hnothing => ?_, fun m hasked hne hdone => ?_⟩
  · rw [store_of_nothing hreq hnothing, hs] at hs'
    exact (Option.some.inj hs').symm
  · obtain ⟨p, timestamp, -, hplaced, hpublished, hpublications⟩ := exists_placed hs ho hasked hdone
    rw [hpublished] at hs'
    obtain rfl := Option.some.inj hs'
    exact ⟨p, hpublications, hplaced.counts ho hne _ timestamp⟩

/-- Two rules on one user are ingested, one of which hides the user, and then the user is banned. -/
theorem count_on_entity_twice_ingested :
    let ingested (stateKey : String) (content : PolicyContent) : Message :=
      .policy
        { listRoom := "!list:example.org", kind := .user, stateKey, sender := "@mod:example.org",
          content }
    let rules : List Message :=
      [ingested "one" { entity := "@a:b", recommendation := some .ban },
        ingested "two"
          { recommendation := some .takedown, hashes := some ⟨some (Entity.pseudonym "@a:b")⟩ }]
    let reached := (run Context.small rules World.small).2
    let ban : Message := .command (.small "!ban bans @a:b spam")
    let m : Mutation :=
      { list := { roomId := "!list:example.org", shortcode := "bans", name := "Bans" },
        kind := .user, entity := "@a:b", change := .ban .ban "spam" false }
    ∃ records records' p, reached.store.records? = some records ∧
      (take Context.small ban reached).2.store.records? = some records' ∧
      (take Context.small ban reached).2.publications = reached.publications ++ [m.effect p] ∧
      m.Counts records records' p := by
  intro ingested rules reached ban m
  have hempty : World.small.store.records? = some [] := rfl
  have hreq : ban.isRequest = true := rfl
  have hasked : asked? Context.small ban reached = some m := by decide +kernel
  have hdone : (take Context.small ban reached).1.isDone = true := by decide +kernel
  obtain ⟨records, records', hs, hs', -, hcounts⟩ :=
    count_on_entity Context.small hempty rules hreq
  obtain ⟨p, hpublications, hcount⟩ := hcounts m hasked (by decide) hdone
  exact ⟨records, records', p, hs, hs', hpublications, hcount⟩

/-- **The records that are not on an entity stay.**  In a session that began with a store that holds
nothing, and in which rules may have been ingested at will, a request that does what it asks for
leaves every record that is not on its entity as it is, but for one that it displaces: that one
stands in its list, among the rules of its kind, under the very key that is derived from its entity
and what it recommends, and no rule on the entity is there to be taken over instead.  A request that
has no rule to take over does publish under that key, and what stood there is replaced by its
rule. -/
theorem others_stay {message : Message} {m : Mutation} (hempty : w.store.records? = some [])
    (before : List Message) (hasked : asked? ctx message (run ctx before w).2 = some m)
    (hdone : (take ctx message (run ctx before w).2).1.isDone = true) :
    ∃ records records', (run ctx before w).2.store.records? = some records ∧
      (take ctx message (run ctx before w).2).2.store.records? = some records' ∧
      (∀ r ∈ records, r.content.targets m.entity = false →
        r ∈ records' ∨ m.Displaces records r) ∧
      ∃ p timestamp, (take ctx message (run ctx before w).2).2.publications =
          (run ctx before w).2.publications ++ [m.effect p] ∧
        ∀ recommendation, m.change.recommendation? = some recommendation →
          m.recordsOn records = [] →
          p.stateKey = derivedStateKey m.entity (some recommendation) ∧
          m.record p ctx.settings.botUser timestamp ∈ records' ∧
          ∀ r ∈ records, r.key = (m.list.roomId, m.kind, p.stateKey) → r ∉ records' := by
  obtain ⟨records, hs, ho⟩ := run_orderly ctx hempty orderly_nil before
  obtain ⟨p, timestamp, -, hplaced, hs', hpublications⟩ := exists_placed hs ho hasked hdone
  refine ⟨records, _, hs, hs', fun r hr hnot => ?_, p, timestamp, hpublications, ?_⟩
  · exact hplaced.mem_or_displaces ho _ timestamp hr (by simp [Mutation.isOn, hnot])
  · exact fun _ hchange hnone => hplaced.replaces ho _ timestamp hchange hnone

/-- An unban of one user is ingested under some key, and another user is banned. -/
theorem others_stay_unban :
    let unban : PolicyRecord :=
      { listRoom := "!list:example.org", kind := .user, stateKey := "key",
        sender := "@mod:example.org",
        content := { entity := "@c:d", reason := "sorry", recommendation := some .unban } }
    let reached := (run Context.small [.policy unban] World.small).2
    let ban : Message := .command (.small "!ban bans @a:b spam")
    let m : Mutation :=
      { list := { roomId := "!list:example.org", shortcode := "bans", name := "Bans" },
        kind := .user, entity := "@a:b", change := .ban .ban "spam" false }
    ∃ records records', reached.store.records? = some records ∧
      (take Context.small ban reached).2.store.records? = some records' ∧
      (∀ r ∈ records, r.content.targets "@a:b" = false →
        r ∈ records' ∨ m.Displaces records r) ∧
      ∃ p timestamp, (take Context.small ban reached).2.publications =
          reached.publications ++ [m.effect p] ∧
        (m.recordsOn records = [] →
          p.stateKey = derivedStateKey "@a:b" (some .ban) ∧
          m.record p Context.small.settings.botUser timestamp ∈ records' ∧
          ∀ r ∈ records, r.key = ("!list:example.org", .user, p.stateKey) → r ∉ records') := by
  intro unban reached ban m
  have hempty : World.small.store.records? = some [] := rfl
  have hasked : asked? Context.small ban reached = some m := by decide +kernel
  have hdone : (take Context.small ban reached).1.isDone = true := by decide +kernel
  obtain ⟨records, records', hs, hs', hstay, p, timestamp, hpublications, hreplaces⟩ :=
    others_stay hempty [.policy unban] hasked hdone
  exact ⟨records, records', hs, hs', hstay, p, timestamp, hpublications,
    hreplaces .ban rfl⟩

/-- An unban of one user that is ingested under the key that is derived for a ban of another is gone
when that other user has been banned. -/
theorem unban_displaced :
    let unban : PolicyRecord :=
      { listRoom := "!list:example.org", kind := .user,
        stateKey := derivedStateKey "@a:b" (some .ban), sender := "@mod:example.org",
        content := { entity := "@c:d", reason := "sorry", recommendation := some .unban } }
    let reached := (run Context.small [.policy unban] World.small).2
    let after := take Context.small (.command (.small "!ban bans @a:b spam")) reached
    reached.store.records? = some [unban] ∧ unban.content.targets "@a:b" = false ∧
      after.1.isDone = true ∧
      ∃ records', after.2.store.records? = some records' ∧ unban ∉ records' := by
  intro unban reached after
  have hbefore : reached.store.records? = some [unban] := by decide +kernel
  have hother : unban.content.targets "@a:b" = false := by decide
  have hdone : after.1.isDone = true := by decide +kernel
  have hgone : (after.2.store.records?.map fun records => decide (unban ∈ records)) =
      some false := by
    decide +kernel
  obtain ⟨records', hafter, hnot⟩ := Option.map_eq_some_iff.1 hgone
  exact ⟨hbefore, hother, hdone, records', hafter, by simpa using hnot⟩

end Session
end Moderation

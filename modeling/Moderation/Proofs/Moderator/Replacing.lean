import Moderation.Proofs.Moderator.Escalation
import Moderation.Proofs.Moderator.Verdict
import Moderation.Proofs.Store.Republishing
/-!
# What a ban replaces

A list may hold several records on one entity, where rules are ingested.  A ban by a command goes
under the key of the last of them (`Mutation.plan_ban_eq_ok_iff`), so that it stands last among them
afterwards and the others stand before it as they did (`Mutation.recordsOn_of_ban`).  The same ban
over again is then planned under the same key with the same content (`Mutation.plan_ban_again`).
-/

namespace Moderation

/-- A ban by a command goes ahead if it finds no unban, and takes over the key that is there. -/
theorem Decision.ban_eq_ok_iff {found : List PolicyRecord} {list entity : String}
    {reuse : Option String} :
    ban found list entity = .ok reuse ↔
      (∀ r ∈ found, r.recommendation ≠ some .unban) ∧ reuse = existingKey found list entity := by
  constructor
  · intro h
    exact ⟨no_unban_of_ban h, Mutation.eq_existingKey (.inl h)⟩
  · rintro ⟨hnone, rfl⟩
    unfold ban
    cases hstanding : standingUnban found with
    | none => rfl
    | some r =>
      obtain ⟨hmem, hunban⟩ := mem_of_standingUnban hstanding
      exact absurd hunban (hnone r hmem)

/-- A rule that takes over its own key is the same rule. -/
theorem Publication.rule_again {entity reason : String} {recommendation : Recommendation}
    {hashed : Bool} {reuse : Option String}
    (hne : (rule entity recommendation reason hashed reuse).stateKey ≠ "") :
    rule entity recommendation reason hashed
        (some (rule entity recommendation reason hashed reuse).stateKey) =
      rule entity recommendation reason hashed reuse := by
  have hkey (key : String) (hkey : key ≠ "") :
      stateKeyFor (some key) entity (some recommendation) = key := by
    have hempty : key.isEmpty = false := by simpa [String.isEmpty_iff] using hkey
    rw [stateKeyFor, hempty, if_neg Bool.false_ne_true]
  have hsame := hkey _ hne
  unfold rule at hsame ⊢
  rw [hsame]

namespace Mutation

variable {σ : Type} {ctx : Context σ} {m : Mutation} {store : Store} {records : List PolicyRecord}
  {p : Publication}

/-- What is asked of the store before an issued mutation: the rules of its kind about its entity, in
lists among which is its own. -/
theorem exists_query (hm : m.Issued ctx) :
    ∃ mode lists, m.list.roomId ∈ lists ∧
      m.query ctx.watched = { mode, lists := some lists, kind := m.kind, value := m.entity } := by
  unfold query
  cases hchange : m.change with
  | ban | unban => exact ⟨_, _, hm.watched, rfl⟩
  | reportBan =>
    rw [hm.kind_of_report hchange]
    exact ⟨_, _, hm.watched, rfl⟩
  | remove => exact ⟨_, _, List.mem_singleton_self _, rfl⟩

/-- A record on the entity of a mutation answers its query. -/
theorem accepts_of_isOn (hm : m.Issued ctx) (hne : m.entity ≠ "") {r : PolicyRecord}
    (hrule : r.content.isTombstone = false) (hon : m.isOn r = true) :
    (m.query ctx.watched).accepts r = true := by
  obtain ⟨mode, lists, hlist, hquery⟩ := exists_query hm
  have hcond : r.listRoom = m.list.roomId ∧ r.kind = m.kind ∧
      r.content.targets m.entity = true := by
    simpa [isOn, and_assoc] using hon
  obtain ⟨hl, hk, htargets⟩ := hcond
  have hconcerns := PolicyContent.concerns_of_targets htargets hrule hne mode
  simp [hquery, PolicyQuery.accepts, hk, hl, hlist, hconcerns]

/-- The records that a query finds in the list of the mutation, on its entity. -/
theorem filter_found (ho : Orderly records) (hm : m.Issued ctx) (hne : m.entity ≠ "") :
    (records.filter (m.query ctx.watched).accepts).filter (fun r =>
        r.listRoom = m.list.roomId && r.content.targets m.entity) =
      m.recordsOn records := by
  rw [List.filter_filter]
  refine List.filter_congr fun r hr => ?_
  cases hon : m.isOn r with
  | true =>
    rw [accepts_of_isOn hm hne (ho.rule r hr) hon, Bool.and_true]
    have hcond : r.listRoom = m.list.roomId ∧ r.kind = m.kind ∧
        r.content.targets m.entity = true := by
      simpa [isOn, and_assoc] using hon
    simp [hcond.1, hcond.2.2]
  | false =>
    -- What is found is of the kind of the mutation, so it is not in the list or not on the entity.
    obtain ⟨mode, lists, -, hquery⟩ := exists_query hm
    cases haccepts : (m.query ctx.watched).accepts r with
    | false => rw [Bool.and_false]
    | true =>
      have hk : r.kind = m.kind := by
        have hkind := (m.query ctx.watched).kind_eq haccepts
        rwa [hquery] at hkind
      simpa [isOn, hk] using hon

theorem existingKey_found (ho : Orderly records) (hm : m.Issued ctx) (hne : m.entity ≠ "") :
    Decision.existingKey (records.filter (m.query ctx.watched).accepts) m.list.roomId m.entity =
      (m.recordsOn records).getLast?.map (·.stateKey) := by
  rw [Decision.existingKey, filter_found ho hm hne]

/-- **What a ban by a command plans**, unless it finds an unban: its rule, under the key of the last
record on its entity if there is one. -/
theorem plan_ban_eq_ok_iff (hs : store.records? = some records) (ho : Orderly records)
    (hm : m.Issued ctx) {recommendation : Recommendation} {reason : String} {hashed : Bool}
    (hchange : m.change = .ban recommendation reason hashed) :
    m.plan ctx.watched store = .ok p ↔
      (∀ r ∈ records.filter (m.query ctx.watched).accepts, r.recommendation ≠ some .unban) ∧
        p = .rule m.entity recommendation reason hashed
          ((m.recordsOn records).getLast?.map (·.stateKey)) := by
  have hne : m.entity ≠ "" := hm.entity_ne_empty (by simp [hchange])
  have hplan : m.plan ctx.watched store =
      (Decision.ban (records.filter (m.query ctx.watched).accepts) m.list.roomId m.entity).map
        fun reuse => .rule m.entity recommendation reason hashed reuse := by
    rw [plan, Store.find_eq_filter hs, decide, hchange]
  rw [hplan, ← existingKey_found ho hm hne]
  constructor
  · intro h
    obtain ⟨reuse, hok, rfl⟩ := exists_of_map_ok h
    obtain ⟨hnone, rfl⟩ := Decision.ban_eq_ok_iff.1 hok
    exact ⟨hnone, rfl⟩
  · rintro ⟨hnone, rfl⟩
    rw [Decision.ban_eq_ok_iff.2 ⟨hnone, rfl⟩]
    rfl

section
variable (hs : store.records? = some records) (ho : Orderly records) (hm : m.Issued ctx)
  {recommendation : Recommendation} {reason : String} {hashed : Bool}
  (hchange : m.change = .ban recommendation reason hashed)
  (hplan : m.plan ctx.watched store = .ok p)
include hs ho hm hchange hplan

/-- A ban takes over the key of the last record on its entity. -/
theorem stateKey_of_ban {old : PolicyRecord} (hlast : (m.recordsOn records).getLast? = some old) :
    old.stateKey = p.stateKey := by
  obtain ⟨-, hp⟩ := (plan_ban_eq_ok_iff hs ho hm hchange).1 hplan
  have hold := (mem_recordsOn.1 (List.mem_of_getLast? hlast)).1
  have hkey : old.stateKey.isEmpty = false := by
    simpa [String.isEmpty_iff] using ho.key_ne_empty old hold
  rw [hp, hlast]
  simp [Publication.rule, Publication.stateKeyFor, hkey]

variable (sender : String) (timestamp : Int64)

/-- **A ban stands last among the records on its entity**, in the place of the one that was last. -/
theorem recordsOn_of_ban :
    m.recordsOn (publishRecord (m.record p sender timestamp) records) =
      (m.recordsOn records).dropLast ++ [m.record p sender timestamp] := by
  have hplaced := placed_of_plan hs ho hm hplan
  obtain ⟨-, hp⟩ := (plan_ban_eq_ok_iff hs ho hm hchange).1 hplan
  have hrule : p.content.isTombstone = false := by rw [hp]; rfl
  have hon := hplaced.isOn_record sender timestamp hrule
  refine filter_publishRecord_last ho.keyed hrule hon fun old hlast => ?_
  exact Placed.key_record sender timestamp (List.mem_of_getLast? hlast)
    (stateKey_of_ban hs ho hm hchange hplan hlast)

/-- **The same ban over again** is planned under the same key, with the same content. -/
theorem plan_ban_again (hban : recommendation.isBanLike = true) {store' : Store}
    (hs' : store'.records? = some (publishRecord (m.record p sender timestamp) records)) :
    m.plan ctx.watched store' = .ok p := by
  have hplaced := placed_of_plan hs ho hm hplan
  have ho' := hplaced.orderly ho sender timestamp
  obtain ⟨hnone, hp⟩ := (plan_ban_eq_ok_iff hs ho hm hchange).1 hplan
  refine (plan_ban_eq_ok_iff hs' ho' hm hchange).2 ⟨fun r hr => ?_, ?_⟩
  · obtain ⟨hr, haccepts⟩ := List.mem_filter.1 hr
    have hrecommends : m.change.recommendation? = some recommendation := by rw [hchange]; rfl
    exact hplaced.no_unban ho hrecommends hban sender timestamp hnone r hr haccepts
  · -- The ban stands last now, and its key is taken over.
    have hlast : (m.recordsOn (publishRecord (m.record p sender timestamp) records)).getLast? =
        some (m.record p sender timestamp) := by
      rw [recordsOn_of_ban hs ho hm hchange hplan sender timestamp, List.getLast?_concat]
    have hne : p.stateKey ≠ "" := hplaced.place.key_ne_empty ho
    have hkey : (m.record p sender timestamp).stateKey = p.stateKey := rfl
    rw [hlast, Option.map_some, hkey]
    rw [hp] at hne ⊢
    exact (Publication.rule_again hne).symm

end

end Mutation

namespace Session

variable {σ : Type} {ctx : Context σ} {w : World σ}

/-- What a command that names a change and completes has done. -/
theorem exists_published {c : CommandMessage} {command : Command} {shortcode entity : String}
    {change : Change} (hparse : Command.parse c.body = .ok (some command))
    (hchange : command.change? = some (shortcode, entity, change))
    (hdone : (Commands.handle ctx c w).1 = .completed) :
    ∃ (m : Mutation) (p : Publication) (timestamp : Int64),
      Commands.mutation ctx shortcode entity change = .ok m ∧ asked? ctx (.command c) w = some m ∧
      m.plan ctx.watched w.store = .ok p ∧
      (Commands.handle ctx c w).2.store =
        m.recordIn p ctx.settings.botUser timestamp w.store ∧
      (Commands.handle ctx c w).2.publications = w.publications ++ [m.effect p] := by
  obtain ⟨m, hm, hasked⟩ := Commands.exists_asked? hparse hchange hdone
  have hasked' : asked? ctx (.command c) w = some m := hasked
  have hisDone : (take ctx (.command c) w).1.isDone = true := by
    rw [take_command, hdone]
    rfl
  obtain ⟨p, timestamp, hplan, hstore, hpublications⟩ := exists_done hasked' hisDone
  exact ⟨m, p, timestamp, hm, hasked', hplan, hstore, hpublications⟩

end Session

/-- A rule about a user, as a list may hold it. -/
def PolicyRecord.small (stateKey : String) : PolicyRecord where
  listRoom := "!list:example.org"
  kind := .user
  stateKey := stateKey
  sender := "@mod:example.org"
  content := { entity := "@a:b", reason := "x", recommendation := some .ban }

end Moderation

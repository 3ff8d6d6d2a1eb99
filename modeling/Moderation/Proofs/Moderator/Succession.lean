import Moderation.Proofs.Moderator.Removal
import Moderation.Proofs.Moderator.Replacing
/-!
# A removal right after a ban

A ban by a command goes under the key of the last record on its entity, and a removal takes away the
one that decides, which after a ban is the first (`Decision.head?_of_removal`).  These are the same
record if there was at most one before the ban; then the ban is gone, and nothing is left on the
entity.  Where rules were ingested there may have been more; then the removal takes away another
record than the ban, and the ban stays (`Session.removal_after_ban`).
-/

namespace Moderation

/-- Among rules none of which is an unban, a removal takes away the first. -/
theorem Decision.head?_of_removal {found : List PolicyRecord} {entity key : String}
    {kind : RemovalKind} (hrule : ∀ r ∈ found, r.content.isTombstone = false)
    (hnone : ∀ r ∈ found, r.recommendation ≠ some .unban)
    (h : removal found entity kind = .ok key) :
    ∃ first, found.head? = some first ∧ first.stateKey = key := by
  have hdeciding : (PolicySummary.ofRecords found).deciding.or found.head? = found.head? := by
    cases found with
    | nil => rfl
    | cons r found =>
      have hunban : (r :: found).find? PolicySummary.recommendsUnban = none :=
        List.find?_eq_none.2 fun u hu => by
          simpa [PolicySummary.recommendsUnban] using hnone u hu
      have hban : PolicySummary.recommendsBan r = true := by
        have hsome := hrule r List.mem_cons_self
        have hnot := hnone r List.mem_cons_self
        unfold PolicyContent.isTombstone at hsome
        unfold PolicySummary.recommendsBan
        unfold PolicyRecord.recommendation at hnot ⊢
        cases hrecommends : r.content.recommendation with
        | none => simp [hrecommends] at hsome
        | some recommendation => cases recommendation <;> simp_all [Recommendation.isBanLike]
      rw [PolicySummary.deciding_ofRecords, hunban, Option.none_or, List.find?_cons_of_pos hban]
      rfl
  unfold removal at h
  rw [hdeciding] at h
  cases hfirst : found.head? with
  | none =>
    rw [hfirst] at h
    cases h
  | some first =>
    refine ⟨first, rfl, ?_⟩
    rw [hfirst] at h
    dsimp only at h
    split at h
    · split at h
      · exact Except.ok.inj h
      · cases h
    · exact Except.ok.inj h

namespace Mutation

/-- What comes of a ban when a removal follows it, by the records on the entity before both: the key
of the tombstone and the records that stand afterwards. -/
inductive AfterBan (m : Mutation) (records : List PolicyRecord) (ban : PolicyRecord) :
    String → List PolicyRecord → Prop
  /-- There was at most one record: the ban took its place, and the removal takes the ban away. -/
  | gone {standing : List PolicyRecord} (hfew : (m.recordsOn records).length ≤ 1)
      (hnothing : m.recordsOn standing = []) : AfterBan m records ban ban.stateKey standing
  /-- There were several: the ban took the place of the last, and the removal takes the first. -/
  | stays {first last : PolicyRecord} {standing : List PolicyRecord}
      (hmany : 1 < (m.recordsOn records).length) (hfirst : (m.recordsOn records).head? = some first)
      (hlast : (m.recordsOn records).getLast? = some last) (hkey : last.stateKey = ban.stateKey)
      (hplace : m.recordsOn (publishRecord ban records) = (m.recordsOn records).dropLast ++ [ban])
      (hother : first.stateKey ≠ ban.stateKey) (hstays : ban ∈ standing) :
    AfterBan m records ban first.stateKey standing

variable {σ : Type} {ctx : Context σ} {m : Mutation} {store store' : Store}
  {records : List PolicyRecord} {p p' : Publication} {kind : RemovalKind}

/-- Where no record on the entity is an unban, a removal plans a tombstone over the first. -/
theorem exists_first_of_removal (hs : store.records? = some records) (ho : Orderly records)
    (hne : m.entity ≠ "") (hnone : ∀ r ∈ m.recordsOn records, r.recommendation ≠ some .unban)
    (hplan : { m with change := .remove kind : Mutation }.plan ctx.watched store = .ok p) :
    p.content = .tombstone ∧
      ∃ first, (m.recordsOn records).head? = some first ∧ first.stateKey = p.stateKey := by
  rw [plan_of_remove (m := { m with change := .remove kind }) rfl hne hs ho.rule] at hplan
  obtain ⟨key, hok, rfl⟩ := exists_of_map_ok hplan
  have hrule (r : PolicyRecord) (hr : r ∈ m.recordsOn records) : r.content.isTombstone = false :=
    ho.rule r (mem_recordsOn.1 hr).1
  obtain ⟨first, hfirst, rfl⟩ := Decision.head?_of_removal hrule hnone hok
  refine ⟨rfl, first, hfirst, ?_⟩
  have hmem := (mem_recordsOn.1 (List.mem_of_head? hfirst)).1
  have hkey : first.stateKey.isEmpty = false := by
    simpa [String.isEmpty_iff] using ho.key_ne_empty first hmem
  simp [Publication.removal, Publication.stateKeyFor, hkey]

theorem keyed_recordsOn (hk : Keyed records) : Keyed (m.recordsOn records) :=
  hk.sublist ((List.filter_sublist (p := m.isOn) (l := records)).map PolicyRecord.key)

/-- Records on one entity, in one list and of one kind, differ in their state keys. -/
theorem key_eq_of_stateKey_eq {r r' : PolicyRecord} (hr : r ∈ m.recordsOn records)
    (hr' : r' ∈ m.recordsOn records) (h : r.stateKey = r'.stateKey) : r.key = r'.key := by
  obtain ⟨-, hl, hk, -⟩ := mem_recordsOn.1 hr
  obtain ⟨-, hl', hk', -⟩ := mem_recordsOn.1 hr'
  simp only [PolicyRecord.key, hl, hk, hl', hk', h]

section
variable (hs : store.records? = some records) (ho : Orderly records) (hm : m.Issued ctx)
  {recommendation : Recommendation} {reason : String} {hashed : Bool}
  (hchange : m.change = .ban recommendation reason hashed)
  (hban : recommendation.isBanLike = true) (hplan : m.plan ctx.watched store = .ok p)
  {sender : String} {timestamp : Int64}
include hs ho hm hchange hban hplan

/-- After a ban none of the records on its entity is an unban. -/
theorem no_unban_of_ban {r : PolicyRecord}
    (hr : r ∈ m.recordsOn (publishRecord (m.record p sender timestamp) records)) :
    r.recommendation ≠ some .unban := by
  have hplaced := placed_of_plan hs ho hm hplan
  obtain ⟨hmem, hon⟩ := List.mem_filter.1 hr
  have hne : m.entity ≠ "" := hm.entity_ne_empty (by simp [hchange])
  have hrule := (hplaced.orderly ho sender timestamp).rule r hmem
  have hrecommends : m.change.recommendation? = some recommendation := by rw [hchange]; rfl
  have hfound := ((plan_ban_eq_ok_iff hs ho hm hchange).1 hplan).1
  exact hplaced.no_unban ho hrecommends hban sender timestamp hfound r hmem
    (accepts_of_isOn hm hne hrule hon)

/-- **A removal right after a ban** takes the ban away if there was at most one record on the entity
before it, and the first of them otherwise. -/
theorem afterBan_of_plan
    (hs' : store'.records? = some (publishRecord (m.record p sender timestamp) records))
    (hplan' : { m with change := .remove kind : Mutation }.plan ctx.watched store' = .ok p')
    (sender' : String) (timestamp' : Int64) :
    p'.content = .tombstone ∧
      m.AfterBan records (m.record p sender timestamp) p'.stateKey
        (publishRecord (m.record p' sender' timestamp')
          (publishRecord (m.record p sender timestamp) records)) := by
  have hne : m.entity ≠ "" := hm.entity_ne_empty (by simp [hchange])
  have ho' := (placed_of_plan hs ho hm hplan).orderly ho sender timestamp
  obtain ⟨htomb, first, hfirst, hkey⟩ := exists_first_of_removal hs' ho' hne
    (fun r hr => no_unban_of_ban hs ho hm hchange hban hplan hr) hplan'
  refine ⟨htomb, ?_⟩
  have hon := recordsOn_of_ban hs ho hm hchange hplan sender timestamp
  have hkeyOfLast {last : PolicyRecord} (hlast : (m.recordsOn records).getLast? = some last) :
      last.stateKey = (m.record p sender timestamp).stateKey :=
    stateKey_of_ban hs ho hm hchange hplan hlast
  generalize m.record p sender timestamp = ban at ho' hfirst hon hkeyOfLast ⊢
  have hfirstmem := List.mem_of_head? hfirst
  have hkeys : first.key = (m.record p' sender' timestamp').key :=
    Placed.key_record sender' timestamp' hfirstmem hkey
  have hstands (r : PolicyRecord) :
      r ∈ publishRecord (m.record p' sender' timestamp') (publishRecord ban records) ↔
        r ∈ publishRecord ban records ∧ r.key ≠ first.key := by
    have htombstone : (m.record p' sender' timestamp').content.isTombstone = true := by
      rw [record, htomb]
      rfl
    rw [mem_publishRecord ho'.keyed, htombstone, hkeys]
    simp
  rw [← hkey]
  -- The ban comes last, so it comes first as well if nothing stands before it.
  cases hbefore : (m.recordsOn records).dropLast with
  | nil =>
    rw [hbefore] at hon
    rw [hon] at hfirst
    obtain rfl : ban = first := Option.some.inj hfirst
    refine .gone ?_ (List.filter_eq_nil_iff.2 fun r hr hison => ?_)
    · have hlength := congrArg List.length hbefore
      rw [List.length_dropLast, List.length_nil] at hlength
      omega
    · obtain ⟨hmem, hother⟩ := (hstands r).1 hr
      have hr' : r ∈ m.recordsOn (publishRecord ban records) := List.mem_filter.2 ⟨hmem, hison⟩
      rw [hon] at hr'
      exact hother (congrArg PolicyRecord.key (List.mem_singleton.1 hr'))
  | cons other rest =>
    have hplace := hon
    rw [hbefore] at hon
    have hkeyed := keyed_recordsOn (m := m) ho'.keyed
    have hmem : ban ∈ m.recordsOn (publishRecord ban records) := by simp [hon]
    rw [hon] at hfirst hkeyed
    obtain rfl : other = first := Option.some.inj hfirst
    have hother : ban.key ≠ other.key := hkeyed.key_ne (by simp)
    have hmany : 1 < (m.recordsOn records).length := by
      have hlength := congrArg List.length hbefore
      rw [List.length_dropLast, List.length_cons] at hlength
      omega
    have hlast :=
      List.getLast?_eq_some_getLast (List.ne_nil_of_length_pos (Nat.zero_lt_of_lt hmany))
    refine .stays hmany ?_ hlast (hkeyOfLast hlast) hplace (fun heq => ?_)
      ((hstands ban).2 ⟨(mem_recordsOn.1 hmem).1, hother⟩)
    · have hhead := congrArg List.head? hbefore
      rwa [List.head?_dropLast, if_pos hmany] at hhead
    · exact hother (key_eq_of_stateKey_eq hmem hfirstmem heq.symm)

end
end Mutation

/-! ## In a session -/

namespace Session

variable {σ : Type} {ctx : Context σ} {w : World σ}

/-- **A removal right after a ban.**  In a session that began with a store that holds nothing, and
in which rules may have been ingested at will, let a command to ban an entity complete, and let a
command to remove a rule about it from that list complete next.  If there was at most one record on
the entity in that list before the ban, the tombstone goes under the very key of the ban, and
nothing is left on the entity.  Otherwise the ban has taken the place of the last of these records,
the tombstone goes under the key of the first, which is another one, and the ban stays. -/
theorem removal_after_ban {before : List Message} {c c' : CommandMessage} {takedown hashed : Bool}
    {kind : RemovalKind} {shortcode entity reason : String} (hempty : w.store.records? = some [])
    (hban : Command.parse c.body = .ok (some (.ban takedown hashed shortcode entity reason)))
    (hremove : Command.parse c'.body = .ok (some (.remove kind shortcode entity)))
    (hbanned : (Commands.handle ctx c (run ctx before w).2).1 = .completed)
    (hremoved : (Commands.handle ctx c' (Commands.handle ctx c (run ctx before w).2).2).1 =
      .completed) :
    let reached := (run ctx before w).2
    let banned := (Commands.handle ctx c reached).2
    let removed := (Commands.handle ctx c' banned).2
    ∃ (m : Mutation) (records standing : List PolicyRecord) (ban : PolicyRecord) (key : String),
      ctx.listNamed shortcode = some m.list ∧ Entity.classify entity = some m.kind ∧
      m.entity = entity ∧ reached.store.records? = some records ∧
      banned.publications = reached.publications ++
        [.publish m.list.roomId m.kind ban.stateKey ban.content] ∧
      banned.store.records? = some (publishRecord ban records) ∧
      removed.publications = banned.publications ++
        [.publish m.list.roomId m.kind key .tombstone] ∧
      removed.store.records? = some standing ∧ m.AfterBan records ban key standing := by
  intro reached banned removed
  obtain ⟨records, hs, ho⟩ : ∃ records, reached.store.records? = some records ∧ Orderly records :=
    run_orderly ctx hempty orderly_nil before
  obtain ⟨m, p, timestamp, hm, hasked, hplan, hstore, hpublished⟩ :=
    exists_published hban rfl hbanned
  have hissued := issued_of_asked? hasked
  have hs' : banned.store.records? =
      some (publishRecord (m.record p ctx.settings.botUser timestamp) records) := by
    rw [hstore]
    exact Mutation.records?_recordIn hs ho.keyed _ _ _ _
  have hplaced := Mutation.placed_of_plan hs ho hissued hplan
  have ho' := hplaced.orderly ho ctx.settings.botUser timestamp
  obtain ⟨m', p', timestamp', hm', -, hplan', hstore', hpublished'⟩ :=
    exists_published hremove rfl hremoved
  obtain ⟨list, k, hlist, hclass, heq⟩ := Commands.mutation_eq_ok.1 hm
  obtain ⟨list', k', hlist', hclass', heq'⟩ := Commands.mutation_eq_ok.1 hm'
  obtain rfl := Option.some.inj (hlist.symm.trans hlist')
  obtain rfl := Option.some.inj (hclass.symm.trans hclass')
  obtain rfl : m' = { m with change := .remove kind } := by rw [heq', heq]
  have hchange : m.change = .ban (if takedown then .takedown else .ban) reason hashed := by rw [heq]
  have hisBan := Recommendation.isBanLike_ban takedown
  obtain ⟨htomb, hafter⟩ := Mutation.afterBan_of_plan hs ho hissued hchange hisBan hplan hs' hplan'
    ctx.settings.botUser timestamp'
  refine ⟨m, records, _, m.record p ctx.settings.botUser timestamp, p'.stateKey, ?_, ?_, ?_, hs,
    hpublished, hs', ?_, ?_, hafter⟩
  · rw [heq, hlist]
  · rw [heq, hclass]
  · rw [heq]
  · rw [hpublished', Mutation.effect, htomb]
  · rw [hstore']
    exact Mutation.records?_recordIn hs' ho'.keyed _ _ _ _

/-- A rule about a user is ingested, the user is banned, and the ban is removed. -/
theorem removal_after_ban_ingested :
    let reached := (run Context.small [.policy (.small "one")] World.small).2
    let banned := Commands.handle Context.small (.small "!ban bans @a:b spam") reached
    let removed := Commands.handle Context.small (.small "!remove-policy bans @a:b") banned.2
    banned.1 = .completed ∧ removed.1 = .completed ∧
    ∃ (m : Mutation) (records standing : List PolicyRecord) (ban : PolicyRecord) (key : String),
      Context.small.listNamed "bans" = some m.list ∧ Entity.classify "@a:b" = some m.kind ∧
      m.entity = "@a:b" ∧ reached.store.records? = some records ∧
      banned.2.publications = reached.publications ++
        [.publish m.list.roomId m.kind ban.stateKey ban.content] ∧
      banned.2.store.records? = some (publishRecord ban records) ∧
      removed.2.publications = banned.2.publications ++
        [.publish m.list.roomId m.kind key .tombstone] ∧
      removed.2.store.records? = some standing ∧ m.AfterBan records ban key standing := by
  have hban : Command.parse "!ban bans @a:b spam" =
      .ok (some (.ban false false "bans" "@a:b" "spam")) := by
    decide +kernel
  have hremove : Command.parse "!remove-policy bans @a:b" =
      .ok (some (.remove .any "bans" "@a:b")) := by
    decide +kernel
  have hbanned : (Commands.handle Context.small (.small "!ban bans @a:b spam")
      (run Context.small [.policy (.small "one")] World.small).2).1 = .completed := by
    decide +kernel
  have hremoved : (Commands.handle Context.small (.small "!remove-policy bans @a:b")
      (Commands.handle Context.small (.small "!ban bans @a:b spam")
        (run Context.small [.policy (.small "one")] World.small).2).2).1 = .completed := by
    decide +kernel
  have hempty : World.small.store.records? = some [] := rfl
  exact ⟨hbanned, hremoved, removal_after_ban hempty hban hremove hbanned hremoved⟩

/-- Two rules about a user are ingested, and the user is banned: the ban takes the place of the
second rule.  The removal that follows takes the first one away, and the ban stays. -/
theorem removal_misses_ban :
    let before : List Message := [.policy (.small "one"), .policy (.small "two")]
    let content : PolicyContent :=
      { entity := "@a:b", reason := "spam", recommendation := some .ban }
    let reached := (run Context.small before World.small).2
    let banned := Commands.handle Context.small (.small "!ban bans @a:b spam") reached
    let removed := Commands.handle Context.small (.small "!remove-policy bans @a:b") banned.2
    Command.parse "!ban bans @a:b spam" = .ok (some (.ban false false "bans" "@a:b" "spam")) ∧
      Command.parse "!remove-policy bans @a:b" = .ok (some (.remove .any "bans" "@a:b")) ∧
      banned.1 = .completed ∧ removed.1 = .completed ∧
      banned.2.publications = [.publish "!list:example.org" .user "two" content] ∧
      removed.2.publications = [.publish "!list:example.org" .user "two" content,
        .publish "!list:example.org" .user "one" .tombstone] ∧
      removed.2.store.records?.map (List.map fun r => (r.stateKey, r.content)) =
        some [("two", content)] := by
  intro before content reached banned removed
  have hban : Command.parse "!ban bans @a:b spam" =
      .ok (some (.ban false false "bans" "@a:b" "spam")) := by
    decide +kernel
  have hremove : Command.parse "!remove-policy bans @a:b" =
      .ok (some (.remove .any "bans" "@a:b")) := by
    decide +kernel
  have hbanned : banned.1 = .completed := by decide +kernel
  have hremoved : removed.1 = .completed := by decide +kernel
  have hpublished : banned.2.publications =
      [.publish "!list:example.org" .user "two" content] := by
    decide +kernel
  have htaken : removed.2.publications =
      [.publish "!list:example.org" .user "two" content,
        .publish "!list:example.org" .user "one" .tombstone] := by
    decide +kernel
  have hstays : removed.2.store.records?.map (List.map fun r => (r.stateKey, r.content)) =
      some [("two", content)] := by
    decide +kernel
  exact ⟨hban, hremove, hbanned, hremoved, hpublished, htaken, hstays⟩

end Session
end Moderation

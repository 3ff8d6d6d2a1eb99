import Moderation.Proofs.Moderator.Index
import Moderation.Proofs.Moderator.LookingUp
import Moderation.Proofs.Moderator.Replacing
/-!
# Who is behind a digest, in a session

Three things make the store remember an entity: a command that bans it behind its digest, a rule
that is ingested and names a user, and a user's joining a room (`Session.rememberedBy`).  Whatever
messages are taken, the store is what it was with these remembered and some records published
(`Session.exists_writes`), so it names for a digest one of them that has it.

A digest may be asked for in Base64, with padding or without (`Entity.digest?_of_spelling`).  So
after an entity was banned behind its digest, to look up that digest, at any later time, is to look
up the entity; and what is found then has the ban, as long as it stands
(`Session.pseudonyms_resolve`).
-/

namespace Moderation

/-! ## The spellings of a digest -/

/-- The spellings of the digest of an entity in Base64: with padding and without. -/
def Entity.spellings (entity : String) : List String :=
  [pseudonym entity, String.ofList (Base64.digits (sha256Text entity).toList)]

/-- **Either spelling of a digest is read as that digest.** -/
theorem Entity.digest?_of_spelling {entity target : String} (h : target ∈ spellings entity) :
    digest? target = some (sha256Text entity) :=
  digest?_eq_some_iff.2 (List.mem_pair.1 h)

theorem Entity.isWord_of_spelling {entity target : String} (h : target ∈ spellings entity) :
    Text.IsWord target := by
  have hne : Base64.digits (sha256Text entity).toList ≠ [] := by
    intro hnone
    have hread := Base64.ofDigits?_digits (sha256Text entity).toList
    rw [hnone] at hread
    have hlength := congrArg List.length (Option.some.inj hread)
    simp at hlength
  have hdigits : ∀ c ∈ Base64.digits (sha256Text entity).toList, Text.isBlank c = false := by
    intro c hc
    obtain ⟨n, hn, rfl⟩ := Base64.exists_digit_of_mem hc
    exact Base64.digit_not_blank n hn
  rcases List.mem_pair.1 h with rfl | rfl
  · refine ⟨?_, fun c hc => ?_⟩
    · simp [pseudonym, Base64.encode, Base64.encodeChars, hne]
    · rw [pseudonym, Base64.encode, String.toList_ofList] at hc
      rcases Base64.digit_or_padding_of_mem hc with ⟨n, hn, rfl⟩ | rfl
      · exact Base64.digit_not_blank n hn
      · decide
  · exact ⟨by simpa using hne, by simpa using hdigits⟩

/-- The command that looks up a digest is read as that, in either spelling. -/
theorem Command.parse_lookUp {entity target : String} (h : target ∈ Entity.spellings entity) :
    parse (Text.unwords ["!match", target]) = .ok (some (.lookUp target)) := by
  have hverb : Text.IsWord "!match" := by decide
  have hwords : Text.words (Text.unwords ["!match", target]) = ["!match", target] :=
    Text.words_unwords fun word hword => by
      rcases List.mem_pair.1 hword with rfl | rfl
      · exact hverb
      · exact Entity.isWord_of_spelling h
  rw [parse, hwords]
  rfl

/-! ## Who is remembered -/

/-- Whether a change hides its entity behind its digest. -/
def Change.hides : Change → Bool
  | .ban _ _ hashed => hashed
  | _ => false

/-- The digest of an entity goes with a publication exactly if the change hides it. -/
theorem Mutation.entityHash_of_plan {m : Mutation} {watched : List String} {store : Store}
    {p : Publication} (h : m.plan watched store = .ok p) :
    p.entityHash.isSome = m.change.hides := by
  unfold plan decide at h
  cases hchange : m.change with
  | ban recommendation reason hashed =>
    simp only [hchange] at h
    obtain ⟨reuse, -, rfl⟩ := exists_of_map_ok h
    cases hashed <;> rfl
  | reportBan | unban | remove =>
    simp only [hchange] at h
    obtain ⟨reuse, -, rfl⟩ := exists_of_map_ok h
    rfl

/-- What hides an entity concerns it still. -/
theorem Mutation.concerns_of_plan {m : Mutation} {watched : List String} {store : Store}
    {p : Publication} (h : m.plan watched store = .ok p) (hhides : m.change.hides = true)
    (mode : MatchMode) : p.content.concerns mode m.entity = true := by
  unfold plan decide at h
  cases hchange : m.change with
  | ban recommendation reason hashed =>
    simp only [hchange] at h
    obtain ⟨reuse, -, rfl⟩ := exists_of_map_ok h
    obtain rfl : hashed = true := by rwa [hchange] at hhides
    simp [Publication.rule, PolicyContent.concerns, PolicyContent.isTombstone, PolicyContent.sha256]
  | reportBan | unban | remove =>
    rw [hchange] at hhides
    cases hhides

namespace Session

variable {σ : Type} {ctx : Context σ} {w : World σ}

/-- The entities that are remembered when a message is taken: those that join a room, the user that
an ingested rule names, and the entity of a ban that hides it, if the ban succeeds. -/
def rememberedBy (ctx : Context σ) (message : Message) (w : World σ) : List String :=
  match message with
  | .policy r =>
    if r.listRoom.isEmpty || r.stateKey.isEmpty || !Service.namesUser r then []
    else [r.content.entity]
  | .membership u => if u.roomId.toList.head? ≠ some '!' then [] else u.joined
  | request =>
    match asked? ctx request w with
    | some m => if m.change.hides && (take ctx request w).1.isDone then [m.entity] else []
    | none => []

/-- The entities that are remembered in a session. -/
def remembered (ctx : Context σ) : List Message → World σ → List String
  | [], _ => []
  | message :: messages, w =>
    rememberedBy ctx message w ++ remembered ctx messages (take ctx message w).2

theorem remembered_append (before after : List Message) (w : World σ) :
    remembered ctx (before ++ after) w =
      remembered ctx before w ++ remembered ctx after (run ctx before w).2 := by
  induction before generalizing w with
  | nil => rfl
  | cons message before ih =>
    rw [List.cons_append, remembered, ih, ← List.append_assoc, run_cons]
    rfl

/-- What a request writes to the store. -/
theorem exists_writes_request {message : Message} (hreq : message.isRequest = true) :
    ∃ records, (take ctx message w).2.store =
      (w.store.rememberAll (rememberedBy ctx message w)).publishAll records := by
  have hby : rememberedBy ctx message w = match asked? ctx message w with
      | some m => if m.change.hides && (take ctx message w).1.isDone then [m.entity] else []
      | none => [] := by
    cases message with
    | command | report => rfl
    | policy | membership => cases hreq
  cases exists_course ctx hreq w with
  | unasked hasked hstill =>
    refine ⟨[], ?_⟩
    rw [hby, hasked, hstill.store]
    rfl
  | refused hasked _ hdone hstill =>
    refine ⟨[], ?_⟩
    simp only [hby, hasked, hdone, Bool.and_false, Bool.false_eq_true, if_false, hstill.store]
    rfl
  | unpublished hasked _ hdone hstore =>
    refine ⟨[], ?_⟩
    simp only [hby, hasked, hdone, Bool.and_false, Bool.false_eq_true, if_false, hstore]
    rfl
  | @done m p timestamp hasked hplan hdone hstore =>
    refine ⟨[m.record p ctx.settings.botUser timestamp], ?_⟩
    simp only [hby, hasked, hdone, Bool.and_true, hstore, Mutation.recordIn,
      Mutation.entityHash_of_plan hplan]
    cases m.change.hides with
    | false => rfl
    | true => exact (Store.publish_remember w.store _ m.entity).symm

/-- **What a message writes to the store**: some entities are remembered, and some records
published. -/
theorem exists_writes_of_take (ctx : Context σ) (message : Message) (w : World σ) :
    ∃ records, (take ctx message w).2.store =
      (w.store.rememberAll (rememberedBy ctx message w)).publishAll records := by
  match message with
  | .command c => exact exists_writes_request rfl
  | .report r => exact exists_writes_request rfl
  | .policy r =>
    show ∃ records, (Service.takePolicy r w).2.store = _
    unfold Service.takePolicy rememberedBy
    cases hlacks : r.listRoom.isEmpty || r.stateKey.isEmpty with
    | true =>
      refine ⟨[], ?_⟩
      simp only [hlacks, Bool.true_or, if_true]
      rfl
    | false =>
      refine ⟨[r], ?_⟩
      cases hnames : Service.namesUser r with
      | false =>
        simp only [hlacks, hnames, Bool.not_false, Bool.or_true, if_true]
        rfl
      | true =>
        simp only [hlacks, hnames, Bool.not_true, Bool.or_false, Bool.false_eq_true, if_false]
        rfl
  | .membership u =>
    show ∃ records, (Service.takeMembership u w).2.store = _
    unfold Service.takeMembership rememberedBy
    by_cases hroom : u.roomId.toList.head? = some '!'
    · refine ⟨[], ?_⟩
      simp only [hroom, ne_eq, not_true_eq_false, if_false]
      rfl
    · refine ⟨[], ?_⟩
      simp only [hroom, ne_eq, not_false_eq_true, if_true]
      rfl

/-- **What a session writes to the store.** -/
theorem exists_writes (ctx : Context σ) (messages : List Message) (w : World σ) :
    ∃ records, (run ctx messages w).2.store =
      (w.store.rememberAll (remembered ctx messages w)).publishAll records := by
  induction messages generalizing w with
  | nil => exact ⟨[], rfl⟩
  | cons message messages ih =>
    obtain ⟨records, hrecords⟩ := exists_writes_of_take ctx message w
    obtain ⟨records', hrecords'⟩ := ih (take ctx message w).2
    refine ⟨records ++ records', ?_⟩
    rw [run_cons, hrecords', hrecords, remembered, Store.rememberAll_append,
      ← Store.publishAll_rememberAll, Store.publishAll_append]

/-- **Who is behind a digest** at the end of a session: what is remembered in it decides. -/
theorem reverse_run (ctx : Context σ) (messages : List Message) (w : World σ) (digest : Digest) :
    (run ctx messages w).2.store.reverse digest =
      (w.store.rememberAll (remembered ctx messages w)).reverse digest := by
  obtain ⟨records, hwrites⟩ := exists_writes ctx messages w
  rw [hwrites, Store.reverse_publishAll]

/-- Rules that can be read can be read at the end of a session. -/
theorem readable_run (ctx : Context σ) (messages : List Message)
    (hreadable : w.store.records?.isSome = true) :
    (run ctx messages w).2.store.records?.isSome = true := by
  obtain ⟨records, hwrites⟩ := exists_writes ctx messages w
  rw [hwrites]
  refine Store.readable_publishAll ?_ records
  rwa [Store.records?_rememberAll]

/-- Whom a command bans behind its digest is remembered. -/
theorem mem_remembered_of_ban {c : CommandMessage} {m : Mutation} {before : List Message}
    (hasked : asked? ctx (.command c) (run ctx before w).2 = some m)
    (hhides : m.change.hides = true)
    (hdone : (Commands.handle ctx c (run ctx before w).2).1 = .completed) (after : List Message) :
    m.entity ∈ remembered ctx (before ++ .command c :: after) w := by
  have hby : rememberedBy ctx (.command c) (run ctx before w).2 = [m.entity] := by
    unfold rememberedBy
    simp only [hasked, hhides, take_command, hdone]
    rfl
  rw [remembered_append, remembered, hby]
  simp

/-- **Who is behind a digest, in a session** that began with no one behind any.  Whoever is named
for a digest was remembered and has it.  If no two of those who were remembered have one digest,
each of them is named for its own.  So once a command that bans an entity behind its digest has
completed, a later command to look up that digest, in either spelling, names the entity and tells of
it; and if the rules of the store can be read, those that the command finds have the ban among
them, if it still stands. -/
theorem pseudonyms_resolve (ctx : Context σ) (hindexed : w.store.hasIndex = true)
    (hempty : ∀ digest, w.store.reverse digest = none) (messages : List Message) :
    let reached := (run ctx messages w).2
    (∀ digest user, reached.store.reverse digest = some user →
      user ∈ remembered ctx messages w ∧ sha256Text user = digest) ∧
    (CollisionFree (remembered ctx messages w) →
      (∀ user ∈ remembered ctx messages w,
        reached.store.reverse (sha256Text user) = some user) ∧
      ∀ (before after : List Message) (c c' : CommandMessage) (takedown : Bool)
        (shortcode entity reason target : String),
        messages = before ++ .command c :: after →
        Command.parse c.body = .ok (some (.ban takedown true shortcode entity reason)) →
        (Commands.handle ctx c (run ctx before w).2).1 = .completed →
        Commands.gateOf ctx c' = .pass →
        Command.parse c'.body = .ok (some (.lookUp target)) →
        target ∈ Entity.spellings entity →
        ∃ listRoom kind stateKey content,
          (Commands.handle ctx c (run ctx before w).2).2.publications =
            (run ctx before w).2.publications ++ [.publish listRoom kind stateKey content] ∧
          Entity.classify entity = some kind ∧
          (Commands.handle ctx c' reached).1 = .completed ∧
          (Commands.handle ctx c' reached).2.effects = reached.effects ++
            (LookUp.foundText entity target :: LookUp.told ctx reached kind entity).map .notice ∧
          (w.store.records?.isSome = true →
            ∃ records, reached.store.records? = some records ∧
              ∀ r ∈ records, r.kind = kind → r.content = content →
                r ∈ reached.store.find { mode := .pattern, kind, value := entity })) := by
  intro reached
  refine ⟨fun digest user huser => ?_, fun hcf => ?_⟩
  · have hreverse := (reverse_run ctx messages w digest).symm.trans huser
    exact Store.mem_of_reverse hindexed hempty hreverse
  have hbehind (user : String) (hmem : user ∈ remembered ctx messages w) :
      reached.store.reverse (sha256Text user) = some user :=
    (reverse_run ctx messages w _).trans (Store.reverse_of_mem hindexed hcf hmem)
  refine ⟨hbehind, ?_⟩
  intro before after c c' takedown shortcode entity reason target hmessages hban hbanned hgate
    hlookUp htarget
  obtain ⟨m, p, timestamp, hm, hasked, hplan, -, hpublished⟩ := exists_published hban rfl hbanned
  obtain ⟨list, kind, -, hkind, rfl⟩ := Commands.mutation_eq_ok.1 hm
  have hmem : entity ∈ remembered ctx messages w :=
    hmessages ▸ mem_remembered_of_ban hasked rfl hbanned after
  obtain ⟨hcompleted, heffects⟩ := Commands.handle_lookUp hgate hlookUp
    (Entity.digest?_of_spelling htarget) (hbehind entity hmem) hkind
  have hconcerns := Mutation.concerns_of_plan hplan rfl .pattern
  refine ⟨list.roomId, kind, p.stateKey, p.content, hpublished, hkind, hcompleted, heffects,
    fun hreadable => ?_⟩
  obtain ⟨records, hrecords⟩ := Option.isSome_iff_exists.1 (readable_run ctx messages hreadable)
  refine ⟨records, hrecords, fun r hr hrkind hcontent => ?_⟩
  rw [Store.find_eq_filter hrecords]
  exact List.mem_filter.2 ⟨hr, by simp [PolicyQuery.accepts, hrkind, hcontent, hconcerns]⟩

/-- A user is banned behind its digest, and then the digest is looked up. -/
theorem pseudonyms_resolve_hashed :
    let ban : CommandMessage := .small "!ban --hash bans @a:b spam"
    let lookUp : CommandMessage := .small (Text.unwords ["!match", Entity.pseudonym "@a:b"])
    let reached := (run Context.small [.command ban] World.small).2
    (∀ digest user, reached.store.reverse digest = some user →
      user ∈ remembered Context.small [.command ban] World.small ∧ sha256Text user = digest) ∧
    CollisionFree (remembered Context.small [.command ban] World.small) ∧
    reached.store.reverse (sha256Text "@a:b") = some "@a:b" ∧
    ∃ listRoom kind stateKey content,
      (Commands.handle Context.small ban (run Context.small [] World.small).2).2.publications =
        (run Context.small [] World.small).2.publications ++
          [.publish listRoom kind stateKey content] ∧
      Entity.classify "@a:b" = some kind ∧
      (Commands.handle Context.small lookUp reached).1 = .completed ∧
      (Commands.handle Context.small lookUp reached).2.effects = reached.effects ++
        (LookUp.foundText "@a:b" (Entity.pseudonym "@a:b") ::
          LookUp.told Context.small reached kind "@a:b").map .notice ∧
      ∃ records, reached.store.records? = some records ∧
        ∀ r ∈ records, r.kind = kind → r.content = content →
          r ∈ reached.store.find { mode := .pattern, kind, value := "@a:b" } := by
  have hban : Command.parse "!ban --hash bans @a:b spam" =
      .ok (some (.ban false true "bans" "@a:b" "spam")) := by
    decide +kernel
  have hbanned : (Commands.handle Context.small (.small "!ban --hash bans @a:b spam")
      (run Context.small [] World.small).2).1 = .completed := by
    decide +kernel
  have hremembered : remembered Context.small
      [.command (.small "!ban --hash bans @a:b spam")] World.small = ["@a:b"] := by
    decide +kernel
  have hmem : "@a:b" ∈ remembered Context.small
      [.command (.small "!ban --hash bans @a:b spam")] World.small :=
    hremembered ▸ List.mem_singleton_self _
  have hcf : CollisionFree (remembered Context.small
      [.command (.small "!ban --hash bans @a:b spam")] World.small) := by
    intro user huser other hother _
    rw [hremembered] at huser hother
    rw [List.mem_singleton.1 huser, List.mem_singleton.1 hother]
  have htarget : Entity.pseudonym "@a:b" ∈ Entity.spellings "@a:b" := List.mem_cons_self
  have hlookUp := Command.parse_lookUp htarget
  have hempty (digest : Digest) : World.small.store.reverse digest = none := rfl
  obtain ⟨hnamed, hresolve⟩ := pseudonyms_resolve Context.small (w := World.small) rfl
    hempty [.command (.small "!ban --hash bans @a:b spam")]
  obtain ⟨hbehind, hfound⟩ := hresolve hcf
  obtain ⟨listRoom, kind, stateKey, content, hpublished, hkind, hcompleted, heffects, hrecords⟩ :=
    hfound [] [] (.small "!ban --hash bans @a:b spam")
      (.small (Text.unwords ["!match", Entity.pseudonym "@a:b"])) false "bans" "@a:b" "spam"
      (Entity.pseudonym "@a:b") rfl hban hbanned rfl hlookUp htarget
  exact ⟨hnamed, hcf, hbehind "@a:b" hmem, listRoom, kind, stateKey, content, hpublished, hkind,
    hcompleted, heffects, hrecords rfl⟩

end Session
end Moderation

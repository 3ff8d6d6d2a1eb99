import Moderation.Moderator.Setup
import Moderation.Proofs.Audit.Growth
import Moderation.Proofs.Moderator.SideBySide
/-!
# Restarts do not show

A moderator with a database may be restarted between any two messages or questions, and nobody can
tell (`Session.restarts_do_not_show`).  All that a restart takes from memory is on disk or in the
configuration: the tables, the rooms, which have no members yet, and the last hash, which the audit
log finds again.  The compiled globs that a store keeps in memory do not show either
(`CachedStore.find_fst`), so the store is taken without them here.

The session with restarts runs beside the one without (`World.Twin`).  What is done in both keeps
their worlds alike, and a restart changes only the hash that the audit log goes on with.
-/

namespace Moderation

variable {σ : Type} {ctx : Context σ} {moment' : Nat → Moment} {c : Config}

/-! ## Sessions with restarts -/

/-- A question about what a moderator knows. -/
inductive Inquiry where
  | rules (query : PolicyQuery)
  | user (digest : Digest)
  | members (pattern : Glob) (scope : Option (List String))
  | rooms (user : String)
  | titles (rooms : List String)

/-- What a question comes to. -/
inductive Finding where
  | rules (records : List PolicyRecord)
  | user (name : Option String)
  | names (names : List String)

/-- What a question comes to, at no time in particular. -/
def Finding.undated : Finding → Finding
  | .rules records => .rules (records.map PolicyRecord.undated)
  | finding => finding

/-- Answers a question. -/
def Inquiry.finding (w : World σ) : Inquiry → Finding
  | .rules query => .rules (w.store.find query)
  | .user digest => .user (w.store.reverse digest)
  | .members pattern scope => .names (w.membership.findUsers pattern scope)
  | .rooms member => .names (w.membership.roomsOf member)
  | .titles ids => .names (w.membership.titles ids)

namespace Turn

end Turn

/-- What comes of a message or a question: an answer, and what is asked of the homeserver. -/
structure Upshot where
  answer : Outcome ⊕ Finding
  asked : List Effect

namespace Session

variable {turns : List Turn} {w last : World σ} {upshots : List Upshot}

end Session

/-! ## What may differ -/

/-- What is asked of the homeserver in two sessions: the same, but for the times in notices about
rules. -/
inductive Effect.Like (ctx : Context σ) : Effect → Effect → Prop
  | same (e : Effect) : Effect.Like ctx e e
  | rules (elapsed elapsed' : String) {found found' : List PolicyRecord}
    (h : found.map PolicyRecord.undated = found'.map PolicyRecord.undated) :
    Effect.Like ctx (.notice (LookUp.rulesNotice ctx elapsed found))
      (.notice (LookUp.rulesNotice ctx elapsed' found'))

/-- What comes of a turn in two sessions, apart from times. -/
structure Upshot.Like (ctx : Context σ) (u v : Upshot) : Prop where
  answer : u.answer.map id Finding.undated = v.answer.map id Finding.undated
  asked : List.Forall₂ (Effect.Like ctx) u.asked v.asked

/-! ## Moderators that can be restarted -/

/-- A database with all its tables. -/
structure Database.IsWhole (d : Database) : Prop where
  policies : d.policies.isSome = true
  hashes : d.hashes.isSome = true

namespace Database

variable {d : Database}

theorem IsWhole.publish (h : d.IsWhole) (r : PolicyRecord) : (d.publish r).IsWhole where
  policies := by simpa [Database.publish] using h.policies
  hashes := h.hashes

theorem IsWhole.remember (h : d.IsWhole) (user : String) : (d.remember user).IsWhole where
  policies := h.policies
  hashes := by simpa [Database.remember] using h.hashes

end Database

/-- A moderator that works on a database with all its tables, as it was set up with a configuration:
its rooms have no members, and its audit log has the companions that the configuration names. -/
structure World.Running (c : Config) (w : World σ) : Prop where
  kind : c.store.kind = .database
  path : c.store.path.isSome = true
  database : ∃ d, w.store = .database d ∧ d.IsWhole
  membership : w.membership = .ofRooms c.rooms
  mirror : w.audit.mirror.isSome =
    (c.audit.mirrorPath.filter fun path => !path.isEmpty).isSome
  table : w.audit.table.isSome = c.store.path.isSome

namespace World

namespace Running

variable {w : World σ}

end Running

/-! ## The session with restarts beside the one without -/

/-- The worlds of two sessions that began with one audit log, the second of which may have been
restarted: they differ in times and in the hashes in their audit logs. -/
structure Twin (c : Config) (ctx : Context σ) (base : ByteArray) (w v : World σ) : Prop where
  store : w.store.undated = v.store.undated
  membership : w.membership = v.membership
  server : ctx.homeserver.Alike w.server v.server
  effects : List.Forall₂ (Effect.Like ctx) w.effects v.effects
  audit : ∃ rs qs : List AuditRecord, w.audit.Grown base rs ∧ v.audit.Grown base qs ∧
    rs.map (·.entry.undated) = qs.map (·.entry.undated)
  running : v.Running c

namespace Twin

variable {base : ByteArray} {w v : World σ}

/-- Times that pass do not matter. -/
theorem ticked (h : Twin c ctx base w v) (n n' : Nat) :
    Twin c ctx base { w with ticks := n } { v with ticks := n' } :=
  { h with running := { h.running with } }

/-- Calls that are alike lead to worlds that are alike, if they lead to such states of the
homeserver. -/
theorem asked (h : Twin c ctx base w v) {e e' : Effect} {server server' : σ}
    (he : Effect.Like ctx e e') (hserver : ctx.homeserver.Alike server server') :
    Twin c ctx base (w.asked e server) (v.asked e' server') :=
  { h with
    server := hserver
    effects := List.rel_append h.effects (.cons he .nil)
    running := { h.running with } }

/-- The same call has one answer in both worlds. -/
theorem served (h : Twin c ctx base w v) {α : Type} {effect : Effect} {call : StateM σ α}
    (hc : ctx.homeserver.Serves effect call) :
    (call w.server).1 = (call v.server).1 ∧
      Twin c ctx base (w.asked effect (call w.server).2) (v.asked effect (call v.server).2) := by
  obtain ⟨hanswer, hserver⟩ := hc.alike h.server
  exact ⟨hanswer, h.asked (.same effect) hserver⟩

theorem audited (h : Twin c ctx base w v) {e f : AuditEntry} (hef : e.undated = f.undated) :
    Twin c ctx base { w with audit := w.audit.append e } { v with audit := v.audit.append f } := by
  obtain ⟨rs, qs, hrs, hqs, hmap⟩ := h.audit
  refine
    { h with
      audit := ⟨_, _, hrs.append e, hqs.append f, ?_⟩
      running := { h.running with mirror := ?_, table := ?_ } }
  · simp [hmap, hef]
  · simpa [AuditLog.append] using h.running.mirror
  · simpa [AuditLog.append] using h.running.table

theorem published (h : Twin c ctx base w v) {r r' : PolicyRecord} (hr : r.undated = r'.undated) :
    Twin c ctx base { w with store := w.store.publish r }
      { v with store := v.store.publish r' } := by
  obtain ⟨d, hd, hwhole⟩ := h.running.database
  refine
    { h with
      store := ?_
      running := { h.running with database := ⟨d.publish r', ?_, hwhole.publish r'⟩ } }
  · simp only [Store.undated_publish, h.store, hr]
  · simp only [hd, Store.publish]

theorem remembered (h : Twin c ctx base w v) (user : String) :
    Twin c ctx base { w with store := w.store.remember user }
      { v with store := v.store.remember user } := by
  obtain ⟨d, hd, hwhole⟩ := h.running.database
  refine
    { h with
      store := ?_
      running := { h.running with database := ⟨d.remember user, ?_, hwhole.remember user⟩ } }
  · simp only [Store.undated_remember, h.store]
  · simp only [hd, Store.remember]

theorem akin (c : Config) (ctx : Context σ) (base : ByteArray) :
    World.Akin id (Twin c ctx base) where
  membership _ _ h := h.membership
  store _ _ h := h.store
  logged _ _ h e e' he n n' := by
    rw [mapEvent_id, mapEvent_id] at he
    exact (h.ticked n n').audited he
  publish _ _ h _ _ hr := h.published hr
  remember _ _ h user := h.remembered user

/-- **The worlds go on alike.** -/
theorem carries (c : Config) (ctx : Context σ) (base : ByteArray) (moment' : Nat → Moment) :
    Act.Carries ctx moment' id (.ofWorlds (Twin c ctx base)) where
  perform hc _ _ _ h := h.served hc
  entry := (akin c ctx base).entry
  membership := Act.Coupling.ofWorlds_sees fun _ _ h => h.membership
  store := Act.Coupling.ofWorlds_sees fun _ _ h => h.store
  publish m p w v h := by
    obtain ⟨hanswer, hnext⟩ :=
      h.served (Homeserver.serves_publish m.list.roomId p.stateKey m.kind p.content)
    exact ⟨congrArg (Except.map id) hanswer, hnext⟩
  settle := (akin c ctx base).settle
  ingest := (akin c ctx base).ingest

end Twin
end World

/-! ## What is looked up -/

open Act World

variable {base : ByteArray}

namespace Session

end Session
end Moderation

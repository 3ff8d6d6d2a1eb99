import Moderation.Proofs.Moderator.Session
import Moderation.Service.Router
/-!
# What a request that fails leaves behind

A request can fail early or late: its path is not known, its body cannot be read, the message lacks
something, or a report is looked at and cannot be acted upon.  Wherever that happens, what the bot
keeps is as it was before (`World.Untouched`).  There is one exception.  A publication that the
homeserver does not take has been tried, and this goes on record (`World.Attempted`): the log has
one more entry, which says that it failed and why.

No other response is the one to a publication that failed, so that the response tells which of the
two it is (`Service.handle_atomic`).
-/

namespace Moderation

variable {σ : Type} {ctx : Context σ} {w v : World σ}

/-- In one world all that the bot keeps is as in another: the store with its index of digests, the
membership and the audit log.  Nothing more has been published either. -/
structure World.Untouched (w v : World σ) : Prop where
  store : v.store = w.store
  membership : v.membership = w.membership
  audit : v.audit = w.audit
  publications : v.publications = w.publications

/-- In one world a publication has been tried in vain since another: the store and the membership
are the same, and the audit log has one more entry, which says what went wrong. -/
structure World.Attempted (e : HomeserverError) (w v : World σ) : Prop where
  store : v.store = w.store
  membership : v.membership = w.membership
  audit : ∃ entry : AuditEntry, entry.result = "failed" ∧ entry.detail = some e.message ∧
    v.audit = w.audit.append entry
  publications : ∃ listRoom kind stateKey content,
    v.publications = w.publications ++ [.publish listRoom kind stateKey content]

namespace World

theorem Untouched.refl (w : World σ) : w.Untouched w := ⟨rfl, rfl, rfl, rfl⟩

theorem Untouched.asked {effect : Effect} (h : w.Untouched v) (he : effect.isPublication = false)
    (server : σ) : w.Untouched (v.asked effect server) where
  store := h.store
  membership := h.membership
  audit := h.audit
  publications := (publications_asked he server v).trans h.publications

theorem Untouched.shown (h : w.Untouched v) (text : String) : w.Untouched (v.shown ctx text) :=
  h.asked rfl _

theorem Attempted.shown {e : HomeserverError} (h : w.Attempted e v) (text : String) :
    w.Attempted e (v.shown ctx text) where
  store := h.store
  membership := h.membership
  audit := h.audit
  publications := publications_shown ctx text v ▸ h.publications

/-- A publication that fails leaves the entry about it and nothing else. -/
theorem Untouched.published {m : Mutation} {p : Publication} {e : HomeserverError}
    (h : w.Untouched v) (ha : m.answer ctx p v = .error e) (actor : String) :
    w.Attempted e (v.published ctx m p actor) where
  store := (published_store_of_error ha actor).trans h.store
  membership := h.membership
  audit := by
    refine ⟨m.entry p actor (.error e) (ctx.moment v.ticks), rfl, rfl, ?_⟩
    rw [← h.audit, ← ha]
    rfl
  publications := by
    refine ⟨m.list.roomId, m.kind, p.stateKey, p.content, ?_⟩
    rw [publications_published, h.publications]
    rfl

end World

/-! ## Reports -/

namespace Reports

variable {report : Report}

theorem Located.untouched {sender target : Option String} {w₁ : World σ}
    (h : Located ctx report w sender target w₁) : w.Untouched w₁ := by
  cases h with
  | named => exact .refl w
  | sent => exact (World.Untouched.refl w).asked rfl _

/-- What a report leaves behind by what became of it. -/
def Leaves (w : World σ) : Except ReportError ReportOutcome → World σ → Prop
  | .ok _, _ => True
  | .error (.unpublished e), v => w.Attempted e v
  | .error _, v => w.Untouched v

theorem Escalated.leaves {reporter entity word : String} {args : List String} {w₁ w₂ : World σ}
    {result : Except ReportError ReportOutcome}
    (h : Escalated ctx reporter entity word args w₁ result w₂) (hw : w.Untouched w₁) :
    Leaves w result w₂ := by
  cases h with
  | ignored | published => trivial
  | incomplete | unbanned | banned => exact hw
  | unlisted => exact hw.shown _
  | unpublished _ _ _ _ _ _ ha => exact (hw.published ha _).shown _

/-- **A report that fails leaves the world untouched**, unless it came to a publication that the
homeserver did not take. -/
theorem handle_leaves (ctx : Context σ) (report : Report) (w : World σ) :
    Leaves w (handle ctx report w).1 (handle ctx report w).2 := by
  obtain ⟨result, v, hcase⟩ := exists_handled ctx report w
  rw [hcase.handle_eq]
  cases hcase with
  | unfetched => exact ((World.Untouched.refl w).asked rfl _).shown _
  | shown => trivial
  | escalated hl _ _ _ he => exact he.leaves hl.untouched

end Reports

/-! ## Requests -/

/-- Whether a response says that all went well. -/
def Response.isSuccess (r : Response) : Bool := 200 ≤ r.status && r.status < 300

namespace Service

/-- The response to a report that failed. -/
def reportFailure (e : ReportError) : Response := failure e.status e.errcode e.message

/-- The response to a publication that failed. -/
def unpublished (e : HomeserverError) : Response := reportFailure (.unpublished e)

/-- What a request leaves behind by the response to it, if that says that it failed. -/
def Leaves (w : World σ) (response : Response) (v : World σ) : Prop :=
  (∃ e, response = unpublished e ∧ w.Attempted e v) ∨
    (∀ e, response ≠ unpublished e) ∧ w.Untouched v

theorem failure_inj {status status' : Nat} {errcode errcode' error error' : String}
    (h : failure status errcode error = failure status' errcode' error') : error = error' := by
  simp only [failure, ErrorBody.toJson, Response.mk.injEq, ResponseBody.json.injEq] at h
  grind

/-- That an event cannot be fetched is said in other words than that a rule cannot be sent. -/
theorem message_eventFetch_ne (e e' : HomeserverError) :
    (ReportError.eventFetch e).message ≠ (ReportError.unpublished e').message := by
  intro h
  have hlist : "failed to fetch event: ".toList ++ e.message.toList =
      "failed to send policy: ".toList ++ e'.message.toList := by
    rw [← String.toList_append, ← String.toList_append]
    exact congrArg String.toList h
  exact absurd (List.append_inj_left hlist (by decide)) (by decide)

theorem reportFailure_ne_unpublished {e : ReportError} (h : ∀ f, e ≠ .unpublished f)
    (f : HomeserverError) : reportFailure e ≠ unpublished f := by
  intro heq
  have hstatus : e.status = 502 := congrArg Response.status heq
  cases e with
  | eventFetch e => exact message_eventFetch_ne e f (failure_inj heq)
  | unpublished e => exact h e rfl
  | invalidParam | notFound | conflict => cases hstatus

theorem leaves_of_refusal {act : Act σ Response} {response : Response}
    (hact : act w = (response, w)) (h : response.status ≠ 502) :
    Leaves w (act w).1 (act w).2 := by
  rw [hact]
  exact .inr ⟨fun _ heq => h (congrArg Response.status heq), .refl w⟩

/-- **A message that is refused, or fails, leaves no trace** but that of a failed publication. -/
theorem take_leaves (ctx : Context σ) (message : Message) (w : World σ)
    (h : (take ctx message w).1.isSuccess = false) :
    Leaves w (take ctx message w).1 (take ctx message w).2 := by
  match message with
  | .command c =>
    simp only [take, takeCommand] at h ⊢
    split at h
    · next hc => exact leaves_of_refusal (by rw [if_pos hc]; rfl) (by decide)
    · cases h
  | .report r =>
    simp only [take, takeReport] at h ⊢
    split at h
    · next hr => exact leaves_of_refusal (by rw [if_pos hr]; rfl) (by decide)
    · next hr =>
      rw [if_neg hr, Act.bind_apply] at *
      have hleaves := Reports.handle_leaves ctx r w
      revert h hleaves
      rcases Reports.handle ctx r w with ⟨result, v⟩
      intro h hleaves
      match result with
      | .ok outcome => cases h
      | .error (.unpublished e) => exact .inl ⟨e, rfl, hleaves⟩
      | .error (.invalidParam _) | .error (.notFound _) | .error (.conflict _) |
        .error (.eventFetch _) =>
        exact .inr ⟨reportFailure_ne_unpublished (by simp), hleaves⟩
  | .policy r =>
    simp only [take, takePolicy] at h ⊢
    split at h
    · next hr => exact leaves_of_refusal (by rw [if_pos hr]; rfl) (by decide)
    · cases h
  | .membership u =>
    simp only [take, takeMembership] at h ⊢
    split at h
    · next hu => exact leaves_of_refusal (by rw [if_pos hu]; rfl) (by decide)
    · cases h

theorem readBody_status {α : Type} {d : Json.Decoder α} {r : Request} {status : Nat}
    (h : readBody d r = .error status) : status ∈ [400, 413, 415, 422] := by
  unfold readBody at h
  grind

theorem takeIn_leaves {α : Type} (d : Json.Decoder α) (kind : α → Message) (r : Request)
    (w : World σ) (h : (takeIn ctx d kind r w).1.isSuccess = false) :
    Leaves w (takeIn ctx d kind r w).1 (takeIn ctx d kind r w).2 := by
  unfold takeIn at h ⊢
  cases hbody : readBody d r with
  | ok a =>
    rw [hbody] at h
    exact take_leaves ctx (kind a) w h
  | error status =>
    refine leaves_of_refusal rfl fun hstatus => ?_
    have hmem := readBody_status hbody
    rw [show status = 502 from hstatus] at hmem
    exact absurd hmem (by decide)

/-- **A request that fails changes nothing that the bot keeps**, whatever its path, its method and
its body.  The one response for which the audit log grows is that to a publication that failed:
then it has one more entry, which says so. -/
theorem handle_atomic (ctx : Context σ) (r : Request) (w : World σ)
    (h : (handle ctx r w).1.isSuccess = false) :
    Leaves w (handle ctx r w).1 (handle ctx r w).2 := by
  unfold handle at h ⊢
  cases hpath : Route.ofPath? (barePath r.path) with
  | none => exact leaves_of_refusal rfl (by decide)
  | some route =>
    simp only [hpath] at h ⊢
    by_cases htakes : route.takes r.method = true
    · rw [if_pos htakes] at h ⊢
      cases route with
      | health => cases h
      | commands | reports | policies | memberships => exact takeIn_leaves _ _ r w h
    · exact leaves_of_refusal (by rw [if_neg htakes]; rfl) (by decide)

/-- The administrator reports a user over HTTP and asks for a ban. -/
def banReport : Request where
  method := "POST"
  path := "/v1/reports"
  contentType := some "application/json"
  body := "\x7b\"reporter\":\"@admin:example.org\",\"target_user\":\"@eve:example.org\"," ++
    "\"reason\":\"/ban bans spam\"\x7d"

/-- The homeserver does not take the ban that is asked for: the request fails, and that is all that
goes on record. -/
theorem handle_atomic_banReport :
    let ctx := Context.small.answering (.error (.transport "timed out"))
    let answered := handle ctx banReport World.small
    answered.1.status = 502 ∧ answered.1.isSuccess = false ∧
      Leaves World.small answered.1 answered.2 := by
  have hstatus : (handle (Context.small.answering (.error (.transport "timed out"))) banReport
      World.small).1.status = 502 := by decide +kernel
  have hfails : (handle (Context.small.answering (.error (.transport "timed out"))) banReport
      World.small).1.isSuccess = false := by
    rw [Response.isSuccess, hstatus]
    rfl
  exact ⟨hstatus, hfails, handle_atomic _ banReport World.small hfails⟩

end Service
end Moderation

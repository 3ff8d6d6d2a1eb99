import Moderation.Proofs.Moderator.Act
import Moderation.Proofs.Moderator.Requests
/-!
# How a mutation is carried out

A mutation that is refused leaves the world as it is (`Mutation.run_refused`).  One that goes ahead
publishes once, and the world afterwards is `World.published`: the audit log has one more entry, and
the store has changed if the publication succeeded (`Mutation.run_planned`).
-/

namespace Moderation

variable {σ : Type} {ctx : Context σ} {m : Mutation} {w : World σ}

/-- What is asked of the homeserver to publish. -/
def Mutation.effect (m : Mutation) (p : Publication) : Effect :=
  .publish m.list.roomId m.kind p.stateKey p.content

/-- What the homeserver answers to a publication. -/
def Mutation.answer (ctx : Context σ) (m : Mutation) (p : Publication) (w : World σ) :
    Answer String :=
  (ctx.homeserver.publish m.list.roomId m.kind p.stateKey p.content w.server).1

/-- The world after what came of a publication was settled: the record is in the store if it
succeeded, and an entry is in the audit log in any case. -/
def World.settled (ctx : Context σ) (m : Mutation) (p : Publication) (actor : String)
    (answer : Answer String) (w : World σ) : World σ :=
  { w with
    store := match answer with
      | .ok _ => m.recordIn p ctx.settings.botUser (ctx.moment w.ticks).now w.store
      | .error _ => w.store
    audit := w.audit.append (m.entry p actor answer (ctx.moment w.ticks))
    ticks := w.ticks + 1 }

/-- The world after a publication was sent and settled. -/
def World.published (ctx : Context σ) (m : Mutation) (p : Publication) (actor : String)
    (w : World σ) : World σ :=
  (w.asked (m.effect p)
    (ctx.homeserver.publish m.list.roomId m.kind p.stateKey p.content w.server).2).settled
    ctx m p actor (m.answer ctx p w)

theorem World.published_store_of_ok {p : Publication} {eventId : String}
    (h : m.answer ctx p w = .ok eventId) (actor : String) :
    (w.published ctx m p actor).store =
      m.recordIn p ctx.settings.botUser (ctx.moment w.ticks).now w.store := by
  unfold World.published World.settled
  rw [h]
  rfl

theorem World.published_store_of_error {p : Publication} {e : HomeserverError}
    (h : m.answer ctx p w = .error e)
    (actor : String) : (w.published ctx m p actor).store = w.store := by
  unfold World.published World.settled
  rw [h]
  rfl

namespace Mutation

theorem send_apply (p : Publication) (w : World σ) :
    m.send ctx p w =
      (m.answer ctx p w,
        w.asked (m.effect p)
          (ctx.homeserver.publish m.list.roomId m.kind p.stateKey p.content w.server).2) := rfl

theorem settle_apply (p : Publication) (actor : String) (answer : Answer String) (w : World σ) :
    m.settle ctx p actor answer w = ((), w.settled ctx m p actor answer) := by
  cases answer <;> rfl

/-- **A mutation that is refused changes nothing.** -/
theorem run_refused {c : Conflict} (h : m.plan ctx.watched w.store = .error c) (actor : String) :
    m.run ctx actor w = (.error (.conflict c), w) := by
  unfold run
  rw [Act.bind_apply, Act.get_apply]
  simp only [h]
  rfl

/-- **A mutation that goes ahead publishes once** and settles what came of it. -/
theorem run_planned {p : Publication} (h : m.plan ctx.watched w.store = .ok p) (actor : String) :
    m.run ctx actor w =
      (match m.answer ctx p w with
        | .ok eventId => .ok { publication := p, eventId }
        | .error e => .error (.unpublished e),
      w.published ctx m p actor) := by
  unfold run
  rw [Act.bind_apply, Act.get_apply]
  simp only [h, Act.bind_apply, send_apply, settle_apply]
  unfold World.published
  cases m.answer ctx p w <;> rfl

end Mutation
end Moderation

import Moderation.Calendar
import Moderation.Moderator.World
import Moderation.Policy.Summary
/-!
# Looking up an entity

What the lists say about an entity, and which rooms a user is in.  A digest stands for the user
behind it, if that is known.
-/

namespace Moderation.LookUp

variable {σ : Type} (ctx : Context σ)

/-- A rule in words. -/
def ruleLine (r : PolicyRecord) : String :=
  let tag := (r.recommendation.map Recommendation.tag).getD ""
  s!"* [{ctx.listTitle r.listRoom}] [{r.sender}]({Entity.link r.sender}) " ++
    s!"set recommendation `{tag}` for `{r.entityOrHash}` " ++
    s!"at {Calendar.momentText r.timestamp} for {r.content.reason}"

/-- The rooms of a user in words. -/
def roomsNotice (membership : Membership) (rooms : List String) : String :=
  let lines := (rooms.zip (membership.titles rooms)).map fun (room, title) =>
    s!"* [{title}]({Entity.link room})"
  s!"User is in {rooms.length} protected rooms:\n\n" ++ "\n".intercalate lines

/-- The rules that were found in words. -/
def rulesNotice (elapsed : String) (found : List PolicyRecord) : String :=
  if found.isEmpty then s!"No match in {elapsed}"
  else
    s!"Matched in {elapsed} with recommendations {(PolicySummary.ofRecords found).text}\n\n" ++
      "\n".intercalate (found.map (ruleLine ctx))

/-- The entity that is asked for: the user behind a digest, or the entity itself; nothing where
nobody is known to be behind a digest. -/
def subject (target : String) : Act σ (Option String) := do
  match Entity.digest? target with
  | none => return some target
  | some digest =>
    match (← get).store.reverse digest with
    | some user =>
      Act.notice ctx s!"Matched user `{user}` for hash `{target}`"
      return some user
    | none =>
      Act.notice ctx s!"No user found for hash `{target}`"
      return none

/-- Tells what is known of an entity. -/
def describe (kind : EntityKind) (entity : String) : Act σ Unit := do
  let found := (← get).store.find { mode := .pattern, kind, value := entity }
  let moment ← Act.moment ctx
  let membership := (← get).membership
  let rooms := if kind = .user then membership.roomsOf entity else []
  if !rooms.isEmpty then Act.notice ctx (roomsNotice membership rooms)
  Act.notice ctx (rulesNotice ctx moment.elapsed found)

end Moderation.LookUp

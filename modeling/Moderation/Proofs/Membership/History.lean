import Mathlib.Data.List.Induction
import Moderation.Proofs.Membership
import Moderation.Proofs.Text.ByteOrder
/-!
# Who is where after any updates

Whoever a room's updates mention is in it or not by the last of them that does: a user who joined
with it is in the room, and a user who left with it, and did not join, is not.  A user whom no
update mentions is not in the room (`Membership.holds_foldl`).

One update says this of those whom it mentions and leaves all others where they were
(`Membership.Ordered.holds_apply`), as a room is found in ordered rooms after a change as it was
changed, and every other room as it was (`Membership.find?_changeRoom`).
-/

namespace Moderation

/-- An update says of a user that they joined or left a room. -/
def MembershipUpdate.Mentions (u : MembershipUpdate) (room user : String) : Prop :=
  u.roomId = room ∧ (user ∈ u.joined ∨ user ∈ u.left)

instance (u : MembershipUpdate) (room user : String) : Decidable (u.Mentions room user) :=
  inferInstanceAs (Decidable (_ ∧ _))

/-- The last update that mentions a user in a room. -/
def lastMention? (updates : List MembershipUpdate) (room user : String) : Option MembershipUpdate :=
  (updates.filter (·.Mentions room user)).getLast?

theorem lastMention?_concat (updates : List MembershipUpdate) (u : MembershipUpdate)
    (room user : String) : lastMention? (updates ++ [u]) room user =
      if u.Mentions room user then some u else lastMention? updates room user := by
  unfold lastMention?
  split <;> simp_all [List.filter_append]

theorem TrackedRoom.mem_apply {u : MembershipUpdate} {r : TrackedRoom} {user : String} :
    user ∈ (r.apply u).members ↔ user ∈ u.joined ∨ (user ∈ r.members ∧ user ∉ u.left) := by
  rw [apply, mem_foldl_insertOrdered]
  simp

namespace Membership

/-! ## Rooms after a change -/

theorem find?_eq_none_of_lt {id : String} {rooms : List TrackedRoom} (h : ∀ r ∈ rooms, id < r.id) :
    rooms.find? (·.id = id) = none := by
  refine List.find?_eq_none.2 fun r hr => ?_
  have hne : r.id ≠ id := fun heq => String.lt_irrefl id (heq ▸ h r hr)
  simpa using hne

/-- **A changed room is found changed, and every other as it was.** -/
theorem find?_changeRoom {id : String} {change : TrackedRoom → TrackedRoom}
    (hchange : ∀ r, (change r).id = r.id) {rooms : List TrackedRoom}
    (h : rooms.Pairwise fun r r' => r.id < r'.id) (room : String) :
    (changeRoom id change rooms).find? (·.id = room) =
      if room = id then some (change ((rooms.find? (·.id = id)).getD { id }))
      else rooms.find? (·.id = room) := by
  induction rooms with
  | nil => by_cases hroom : room = id <;> simp [changeRoom, hchange, hroom, eq_comm]
  | cons r rooms ih =>
    obtain ⟨hr, hrooms⟩ := List.pairwise_cons.1 h
    unfold changeRoom
    split
    · next hlt =>
      -- The room is not there yet, as all rooms come after it.
      have hnone : (r :: rooms).find? (·.id = id) = none := by
        refine find?_eq_none_of_lt fun r' hr' => ?_
        rcases List.mem_cons.1 hr' with rfl | hr'
        · exact hlt
        · exact String.lt_trans hlt (hr r' hr')
      rw [hnone, List.find?_cons]
      by_cases hroom : room = id
      · simp [hchange, hroom]
      · simp [hchange, hroom, Ne.symm hroom]
    · split
      · next heq =>
        subst heq
        by_cases hroom : room = r.id
        · simp [hchange, hroom]
        · simp [hchange, hroom, Ne.symm hroom]
      · next hne =>
        rw [List.find?_cons, List.find?_cons, List.find?_cons, ih hrooms]
        by_cases hroom : room = id
        · simp [hroom, Ne.symm hne]
        · simp [hroom]

variable {m : Membership}

/-- Who is in a room of ordered rooms is among the members of the first that has its identifier. -/
theorem Ordered.holds_iff (h : m.Ordered) {room user : String} :
    m.Holds room user ↔ ∃ r, m.rooms.find? (·.id = room) = some r ∧ user ∈ r.members := by
  constructor
  · rintro ⟨r, hr, rfl, hmember⟩
    refine ⟨r, ?_, hmember⟩
    obtain ⟨before, after, hrooms⟩ := List.append_of_mem hr
    have hfirst : ∀ r' ∈ before, r'.id ≠ r.id := by
      intro r' hr' heq
      have hlt : r'.id < r.id := by
        unfold Ordered at h
        rw [hrooms] at h
        exact (List.pairwise_append.1 h).2.2 r' hr' r List.mem_cons_self
      exact String.lt_irrefl _ (heq ▸ hlt)
    rw [hrooms, List.find?_append, List.find?_eq_none.2 (by simpa using hfirst)]
    simp
  · rintro ⟨r, hfind, hmember⟩
    exact ⟨r, List.mem_of_find?_eq_some hfind, by simpa using List.find?_some hfind, hmember⟩

/-! ## Who is where -/

/-- **What one update says**: of the users it mentions, who is in the room; all others stay where
they were. -/
theorem Ordered.holds_apply (h : m.Ordered) (u : MembershipUpdate) (room user : String) :
    (m.apply u).Holds room user ↔
      if u.Mentions room user then user ∈ u.joined else m.Holds room user := by
  have hid (r : TrackedRoom) : (r.apply u).id = r.id := rfl
  rw [(h.apply u).holds_iff, h.holds_iff, Membership.apply, find?_changeRoom hid h]
  by_cases hroom : room = u.roomId
  · subst hroom
    -- A room that is new has no members yet.
    have hold : user ∈ ((m.rooms.find? (·.id = u.roomId)).getD { id := u.roomId }).members ↔
        ∃ r, m.rooms.find? (·.id = u.roomId) = some r ∧ user ∈ r.members := by
      cases m.rooms.find? (·.id = u.roomId) <;> simp
    simp only [if_true, Option.some.injEq, exists_eq_left', TrackedRoom.mem_apply, hold]
    by_cases hmentions : u.Mentions u.roomId user
    · rw [if_pos hmentions]
      constructor
      · rintro (hjoined | ⟨-, hleft⟩)
        · exact hjoined
        · exact hmentions.2.resolve_right hleft
      · exact .inl
    · obtain ⟨hjoined, hleft⟩ : user ∉ u.joined ∧ user ∉ u.left := by
        simpa [MembershipUpdate.Mentions] using hmentions
      rw [if_neg hmentions]
      simp only [hjoined, hleft, not_false_eq_true, and_true, false_or]
  · have hmentions : ¬u.Mentions room user := fun h => hroom h.1.symm
    rw [if_neg hroom, if_neg hmentions]

/-- Nobody is in the rooms that a membership starts with. -/
theorem not_holds_ofRooms (seed : List ProtectedRoom) (room user : String) :
    ¬(ofRooms seed).Holds room user := by
  have hempty (tracked : List TrackedRoom) (h : ∀ r ∈ tracked, r.members = []) :
      ∀ r ∈ seed.foldl
        (fun tracked r => changeRoom r.roomId (fun t => { t with name := r.name }) tracked) tracked,
        r.members = [] := by
    induction seed generalizing tracked with
    | nil => exact h
    | cons first seed ih =>
      refine ih _ fun r hr => ?_
      rcases mem_changeRoom hr with ⟨old, rfl | hold, -, rfl⟩ | hr
      · rfl
      · exact h old hold
      · exact h r hr
  rintro ⟨r, hr, -, hmember⟩
  rw [hempty [] (by simp) r hr] at hmember
  cases hmember

/-- **Who is where after any updates**: the last one that mentions a user in a room decides. -/
theorem holds_foldl (seed : List ProtectedRoom) (updates : List MembershipUpdate)
    (room user : String) :
    (updates.foldl apply (ofRooms seed)).Holds room user ↔
      ∃ u, lastMention? updates room user = some u ∧ user ∈ u.joined := by
  induction updates using List.reverseRecOn with
  | nil => simpa [lastMention?] using not_holds_ofRooms seed room user
  | append_singleton updates u ih =>
    rw [List.foldl_append, List.foldl_cons, List.foldl_nil,
      (ordered_foldl seed updates).holds_apply, lastMention?_concat]
    split
    · simp
    · exact ih

/-- **Membership follows the updates.**  Whatever rooms a membership starts with and whatever
updates it takes, a user is in a room if and only if some update mentions them there and the last
one that does has them join.  The rooms of a user are strictly increasing in the order of their
bytes, as are the users that are found, which are those that match and are in some room, one of the
given rooms where rooms are given. -/
theorem follows_updates (seed : List ProtectedRoom) (updates : List MembershipUpdate) :
    let m := updates.foldl apply (ofRooms seed)
    (∀ user, ((m.roomsOf user).Pairwise fun r r' => Text.bytes r < Text.bytes r') ∧
      ∀ room, room ∈ m.roomsOf user ↔
        ∃ u, lastMention? updates room user = some u ∧ user ∈ u.joined) ∧
    (∀ g scope, ((m.findUsers g scope).Pairwise fun u u' => Text.bytes u < Text.bytes u') ∧
      ∀ user, user ∈ m.findUsers g scope ↔
        g.isMatch user = true ∧ ∃ room ∈ m.roomsOf user, ∀ rooms ∈ scope, room ∈ rooms) ∧
    ∀ g user, user ∈ m.findUsers g none ↔ g.isMatch user = true ∧ m.roomsOf user ≠ [] := by
  intro m
  have hordered : m.Ordered := ordered_foldl seed updates
  have hfound (g : Glob) (scope : Option (List String)) (user : String) :
      user ∈ m.findUsers g scope ↔
        g.isMatch user = true ∧ ∃ room ∈ m.roomsOf user, ∀ rooms ∈ scope, room ∈ rooms := by
    simp only [mem_findUsers_in, mem_roomsOf, and_comm]
  refine ⟨fun user => ⟨Text.pairwise_bytes (hordered.pairwise_roomsOf user), fun room => ?_⟩,
    fun g scope => ⟨Text.pairwise_bytes (m.pairwise_findUsers g scope), hfound g scope⟩,
    fun g user => ?_⟩
  · rw [mem_roomsOf, holds_foldl]
  · simp [hfound, List.eq_nil_iff_forall_not_mem]

end Membership
end Moderation

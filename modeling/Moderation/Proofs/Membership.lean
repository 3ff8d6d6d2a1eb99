import Moderation.Membership
/-!
# Who is where

A membership starts with rooms that nobody is in and takes one update after another, and its rooms
are strictly increasing all the while (`Membership.ordered_foldl`).  So the rooms of a user come in
order and without repetition (`Membership.pairwise_roomsOf`), as the users that match a glob do
(`Membership.pairwise_findUsers`).
-/

namespace Moderation

theorem mem_insertOrdered {x y : String} {l : List String} :
    y ∈ insertOrdered x l ↔ y = x ∨ y ∈ l := by
  induction l with
  | nil => simp [insertOrdered]
  | cons z l ih =>
    unfold insertOrdered
    split
    · simp
    · split
      · next heq => simp [heq]
      · rw [List.mem_cons, ih, List.mem_cons, or_left_comm]

/-- A text put into strictly increasing texts leaves them so. -/
theorem pairwise_insertOrdered (x : String) {l : List String} (h : l.Pairwise (· < ·)) :
    (insertOrdered x l).Pairwise (· < ·) := by
  induction l with
  | nil => exact List.pairwise_singleton _ x
  | cons z l ih =>
    obtain ⟨hz, hl⟩ := List.pairwise_cons.1 h
    unfold insertOrdered
    split
    · next hlt =>
      refine List.pairwise_cons.2 ⟨fun y hy => ?_, h⟩
      rcases List.mem_cons.1 hy with rfl | hy
      · exact hlt
      · exact String.lt_trans hlt (hz y hy)
    · next hnot =>
      split
      · exact h
      · next hne =>
        have hlt : z < x := Std.lt_of_le_of_ne (String.not_lt.1 hnot) (Ne.symm hne)
        refine List.pairwise_cons.2 ⟨fun y hy => ?_, ih hl⟩
        rcases mem_insertOrdered.1 hy with rfl | hy
        · exact hlt
        · exact hz y hy

theorem mem_foldl_insertOrdered {y : String} (texts l : List String) :
    y ∈ texts.foldl (fun l x => insertOrdered x l) l ↔ y ∈ texts ∨ y ∈ l := by
  induction texts generalizing l with
  | nil => simp
  | cons x texts ih =>
    rw [List.foldl_cons, ih, mem_insertOrdered, List.mem_cons, or_assoc, or_left_comm]

theorem pairwise_foldl_insertOrdered (texts : List String) {l : List String}
    (h : l.Pairwise (· < ·)) :
    (texts.foldl (fun l x => insertOrdered x l) l).Pairwise (· < ·) := by
  induction texts generalizing l with
  | nil => exact h
  | cons x texts ih => exact ih (pairwise_insertOrdered x h)

namespace Membership

/-- The rooms are strictly increasing by their identifiers. -/
def Ordered (m : Membership) : Prop := m.rooms.Pairwise fun r r' => r.id < r'.id

/-! ## Memberships are ordered -/

/-- After a change there are the room that was changed, which may be new, and rooms from before. -/
theorem mem_changeRoom {id : String} {change : TrackedRoom → TrackedRoom} {rooms : List TrackedRoom}
    {r : TrackedRoom} (hr : r ∈ changeRoom id change rooms) :
    (∃ old, (old = { id } ∨ old ∈ rooms) ∧ old.id = id ∧ r = change old) ∨ r ∈ rooms := by
  induction rooms with
  | nil => exact .inl ⟨{ id }, .inl rfl, rfl, List.mem_singleton.1 hr⟩
  | cons r' rooms ih =>
    unfold changeRoom at hr
    split at hr
    · rcases List.mem_cons.1 hr with rfl | hr
      · exact .inl ⟨{ id }, .inl rfl, rfl, rfl⟩
      · exact .inr hr
    · split at hr
      · next heq =>
        rcases List.mem_cons.1 hr with rfl | hr
        · exact .inl ⟨r', .inr List.mem_cons_self, heq.symm, rfl⟩
        · exact .inr (List.mem_cons_of_mem _ hr)
      · rcases List.mem_cons.1 hr with rfl | hr
        · exact .inr List.mem_cons_self
        · rcases ih hr with ⟨old, hold, hid, rfl⟩ | hr
          · exact .inl ⟨old, hold.imp_right (List.mem_cons_of_mem _), hid, rfl⟩
          · exact .inr (List.mem_cons_of_mem _ hr)

theorem pairwise_changeRoom {id : String} {change : TrackedRoom → TrackedRoom}
    {rooms : List TrackedRoom} (hchange : ∀ r, (change r).id = r.id)
    (h : rooms.Pairwise fun r r' => r.id < r'.id) :
    (changeRoom id change rooms).Pairwise fun r r' => r.id < r'.id := by
  induction rooms with
  | nil => exact List.pairwise_singleton _ _
  | cons r rooms ih =>
    obtain ⟨hr, hrooms⟩ := List.pairwise_cons.1 h
    unfold changeRoom
    split
    · next hlt =>
      refine List.pairwise_cons.2 ⟨fun r' hr' => ?_, h⟩
      rw [hchange]
      rcases List.mem_cons.1 hr' with rfl | hr'
      · exact hlt
      · exact String.lt_trans hlt (hr r' hr')
    · next hnot =>
      split
      · refine List.pairwise_cons.2 ⟨fun r' hr' => ?_, hrooms⟩
        rw [hchange]
        exact hr r' hr'
      · next hne =>
        have hlt : r.id < id := Std.lt_of_le_of_ne (String.not_lt.1 hnot) (Ne.symm hne)
        refine List.pairwise_cons.2 ⟨fun r' hr' => ?_, ih hrooms⟩
        rcases mem_changeRoom hr' with ⟨old, -, hid, rfl⟩ | hr'
        · rw [hchange, hid]
          exact hlt
        · exact hr r' hr'

theorem ordered_ofRooms (rooms : List ProtectedRoom) : (ofRooms rooms).Ordered := by
  have hfold (tracked : List TrackedRoom) (h : tracked.Pairwise fun r r' => r.id < r'.id) :
      (rooms.foldl
        (fun tracked r => changeRoom r.roomId (fun t => { t with name := r.name }) tracked)
        tracked).Pairwise fun r r' => r.id < r'.id := by
    induction rooms generalizing tracked with
    | nil => exact h
    | cons r rooms ih => exact ih _ (pairwise_changeRoom (fun _ => rfl) h)
  exact hfold [] .nil

theorem Ordered.apply {m : Membership} (h : m.Ordered) (u : MembershipUpdate) :
    (m.apply u).Ordered :=
  pairwise_changeRoom (fun _ => rfl) h

/-- **Whatever updates are taken, a membership is ordered.** -/
theorem ordered_foldl (rooms : List ProtectedRoom) (updates : List MembershipUpdate) :
    (updates.foldl apply (ofRooms rooms)).Ordered := by
  have hfold {m : Membership} (h : m.Ordered) : (updates.foldl apply m).Ordered := by
    induction updates generalizing m with
    | nil => exact h
    | cons u updates ih => exact ih (h.apply u)
  exact hfold (ordered_ofRooms rooms)

/-! ## Who is found -/

variable {m : Membership} {g : Glob} {user : String}

/-- A user is in a room, which is known by an identifier. -/
def Holds (m : Membership) (room user : String) : Prop :=
  ∃ r ∈ m.rooms, r.id = room ∧ user ∈ r.members

/-- A user matches a glob and is in some room. -/
def Matches (m : Membership) (g : Glob) (user : String) : Prop :=
  g.isMatch user = true ∧ ∃ room, m.Holds room user

theorem mem_findUsers_in {scope : Option (List String)} : user ∈ m.findUsers g scope ↔
    g.isMatch user = true ∧ ∃ room, (∀ rooms ∈ scope, room ∈ rooms) ∧ m.Holds room user := by
  rw [findUsers, mem_foldl_insertOrdered]
  simp only [List.mem_flatMap, List.mem_filter, List.not_mem_nil, or_false, Option.all_eq_true,
    decide_eq_true_eq, Option.mem_def, Holds]
  constructor
  · rintro ⟨r, ⟨hr, hscope⟩, hmember, hmatch⟩
    exact ⟨hmatch, r.id, hscope, r, hr, rfl, hmember⟩
  · rintro ⟨hmatch, _, hscope, r, hr, rfl, hmember⟩
    exact ⟨r, ⟨hr, hscope⟩, hmember, hmatch⟩

theorem mem_findUsers : user ∈ m.findUsers g none ↔ m.Matches g user := by
  simp [mem_findUsers_in, Matches]

theorem pairwise_findUsers (m : Membership) (g : Glob) (scope : Option (List String)) :
    (m.findUsers g scope).Pairwise (· < ·) :=
  pairwise_foldl_insertOrdered _ .nil

theorem mem_roomsOf {room : String} : room ∈ m.roomsOf user ↔ m.Holds room user := by
  simp only [roomsOf, List.mem_map, List.mem_filter, decide_eq_true_eq, Holds]
  constructor
  · rintro ⟨r, ⟨hr, hmember⟩, hid⟩
    exact ⟨r, hr, hid, hmember⟩
  · rintro ⟨r, hr, hid, hmember⟩
    exact ⟨r, ⟨hr, hmember⟩, hid⟩

/-- Whoever is found is in some room. -/
theorem filter_findUsers (m : Membership) (g : Glob) :
    ((m.findUsers g none).filter fun user => !(m.roomsOf user).isEmpty) = m.findUsers g none := by
  refine List.filter_eq_self.2 fun user huser => ?_
  obtain ⟨-, room, hroom⟩ := mem_findUsers.1 huser
  have hmem := mem_roomsOf.2 hroom
  simpa using List.ne_nil_of_mem hmem

theorem Ordered.pairwise_roomsOf (h : m.Ordered) (user : String) :
    (m.roomsOf user).Pairwise (· < ·) :=
  List.pairwise_map.2 (h.filter _)

end Membership
end Moderation

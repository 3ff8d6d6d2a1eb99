import Mathlib.Data.List.Nodup
import Mathlib.Data.List.Perm.Basic
import Moderation.Proofs.Json.Values
/-!
# Members of objects

A record is read from the members of an object whatever their order: two objects with the same
members are not read as two records (`record_eq_of_perm`).  A field that a record knows stands in an
object once, so the member that the record takes is the one that a look at the object as a value
finds (`get?_of_checkMembers`), though the first looks from the front and the second from the end.
-/

namespace Moderation.Json

/-! ## What a record is built from -/

namespace Fields

variable {α β : Type} {find : String → Option Draft}

theorem build_map_eq_ok {f : α → β} {x : Fields α} {b : β} :
    (f <$> x).build find = .ok b ↔ ∃ a, x.build find = .ok a ∧ b = f a := by
  change (x.build find).map f = .ok b ↔ _
  cases x.build find with
  | error e => simp [Except.map]
  | ok a => simp [Except.map, eq_comm]

theorem build_seq_eq_ok {f : Fields (α → β)} {x : Fields α} {b : β} :
    (f <*> x).build find = .ok b ↔
      ∃ g a, f.build find = .ok g ∧ x.build find = .ok a ∧ b = g a := by
  change (do let g ← f.build find; let a ← x.build find; return g a) = Except.ok b ↔ _
  cases hf : f.build find with
  | error e => simp [bind, Except.bind]
  | ok g =>
    cases hx : x.build find with
    | error e => simp [bind, Except.bind]
    | ok a => simp [bind, Except.bind, pure, Except.pure, eq_comm]

theorem build_required_eq_ok {name : String} {d : Decoder α} {a : α} :
    (required name d).build find = .ok a ↔ ∃ v, find name = some v ∧ d v = .ok a := by
  cases hv : find name <;> simp [required, hv]

end Fields

@[simp] theorem Fields.slots_seq {α β : Type} (f : Fields (α → β)) (x : Fields α) :
    (f <*> x).slots = f.slots ++ x.slots :=
  rfl

theorem Decoder.string_eq_ok {v : Draft} {s : String} :
    Decoder.string v = .ok s ↔ v = .string (some s) := by
  unfold Decoder.string
  split <;> simp_all

/-- A record read from an object is built from its members, which pass the checks. -/
theorem Decoder.record_object_eq_ok {α : Type} {strict closed : Bool} {fields : Fields α}
    {members : List (Option String × Draft)} {a : α} :
    Decoder.record strict fields (.object members closed) = .ok a ↔
      checkMembers fields.slots strict [] members = .ok () ∧ closed = true ∧
        fields.build (findMember members) = .ok a := by
  simp only [Decoder.record]
  cases checkMembers fields.slots strict [] members with
  | error e => simp [bind, Except.bind]
  | ok u => cases closed <;> simp [bind, Except.bind]

theorem Decoder.ofText_eq_ok {α : Type} {d : Decoder α} {s : String} {a : α} :
    d.ofText s = .ok a ↔
      d (Document.ofText s).root = .ok a ∧ (Document.ofText s).trailing = false := by
  rw [Decoder.ofText]
  cases d (Document.ofText s).root with
  | error e => simp [bind, Except.bind]
  | ok b => cases (Document.ofText s).trailing <;> simp [bind, Except.bind]

/-! ## Members in any order -/

theorem memberDrafts_eq_map (members : List (String × Json)) :
    memberDrafts members = members.map fun m => (some m.1, m.2.toDraft) := by
  induction members with
  | nil => rfl
  | cons m rest ih => rw [memberDrafts, ih, List.map_cons]

/-- Where no two members have one name, a member is found by its name. -/
theorem findMember_memberDrafts {members : List (String × Json)} (h : (members.map (·.1)).Nodup)
    {name : String} {v : Draft} :
    findMember (memberDrafts members) name = some v ↔ ∃ j, (name, j) ∈ members ∧ j.toDraft = v := by
  induction members with
  | nil => simp [memberDrafts, findMember]
  | cons m rest ih =>
    obtain ⟨first, j⟩ := m
    rw [List.map_cons, List.nodup_cons] at h
    have ih := ih h.2
    simp only [findMember, memberDrafts_eq_map, List.map_cons] at ih ⊢
    rcases eq_or_ne first name with rfl | hne
    · have hrest (k : Json) : (first, k) ∉ rest := fun hk => h.1 (List.mem_map.2 ⟨_, hk, rfl⟩)
      simp [hrest]
    · rw [List.find?_cons_of_neg (by simpa using hne), ih]
      simp [Ne.symm hne]

theorem findMember_perm {ms ns : List (String × Json)} (hp : ms.Perm ns)
    (h : (ms.map (·.1)).Nodup) :
    findMember (memberDrafts ms) = findMember (memberDrafts ns) := by
  funext name
  have hn : (ns.map (·.1)).Nodup := (hp.map _).nodup_iff.1 h
  apply Option.ext
  intro v
  rw [findMember_memberDrafts h, findMember_memberDrafts hn]
  simp only [hp.mem_iff]

/-- Members that have names of their own pass the checks if each of them does. -/
theorem checkMembers_memberDrafts {slots : List Slot} {strict : Bool} {seen : List String}
    {members : List (String × Json)} (hn : (members.map (·.1)).Nodup)
    (hseen : ∀ m ∈ members, m.1 ∉ seen)
    (hcheck : ∀ m ∈ members, ∃ slot, slots.find? (·.name = m.1) = some slot ∧
      slot.check m.2.toDraft = .ok ()) :
    checkMembers slots strict seen (memberDrafts members) = .ok () := by
  induction members generalizing seen with
  | nil => rfl
  | cons m rest ih =>
    obtain ⟨name, j⟩ := m
    obtain ⟨slot, hslot, hok⟩ := hcheck (name, j) List.mem_cons_self
    rw [List.map_cons, List.nodup_cons] at hn
    have hrest : checkMembers slots strict (name :: seen) (memberDrafts rest) = .ok () := by
      refine ih hn.2 (fun m hm => ?_) fun m hm => hcheck m (List.mem_cons_of_mem _ hm)
      rw [List.mem_cons, not_or]
      exact ⟨fun he => hn.1 (List.mem_map.2 ⟨m, hm, he⟩), hseen m (List.mem_cons_of_mem _ hm)⟩
    simp only [memberDrafts, checkMembers, hslot, if_neg (hseen (name, j) List.mem_cons_self), hok,
      hrest]

/-- **Objects with the same members are read as the same record.** -/
theorem record_eq_of_perm {α : Type} {strict : Bool} {fields : Fields α}
    {ms ns : List (String × Json)} (hp : ms.Perm ns)
    (h : (ms.map (·.1)).Nodup) {a b : α}
    (ha : Decoder.record strict fields (Json.object ms).toDraft = .ok a)
    (hb : Decoder.record strict fields (Json.object ns).toDraft = .ok b) : a = b := by
  simp only [toDraft] at ha hb
  have hbuild := (Decoder.record_object_eq_ok.1 ha).2.2
  rw [findMember_perm hp h, (Decoder.record_object_eq_ok.1 hb).2.2] at hbuild
  exact (Except.ok.inj hbuild).symm

/-! ## Members of a value -/

theorem value_of_parse? {s : String} {j : Json} (h : parse? s = some j) :
    (Document.ofText s).root.value Draft.depthLimit = .ok j := by
  simp only [parse?] at h
  split at h
  · next k hk =>
    split at h
    · cases h
    · rw [hk, Option.some.inj h]
  · cases h

/-- A value that is an object was drafted as one. -/
theorem Draft.value_eq_object {d : Draft} {n : Nat} {ms : List (String × Json)}
    (h : d.value n = .ok (.object ms)) :
    ∃ members, d = .object members true ∧ memberValues (n - 1) members = .ok ms := by
  unfold Draft.value at h
  split at h
  case h_7 members closed =>
    split at h
    · cases h
    · cases hv : memberValues (n - 1) members with
      | error e => simp [hv] at h
      | ok values => cases closed <;> simp_all
  case h_6 =>
    split at h
    · cases h
    · split at h
      · cases h
      · split at h <;> cases h
  all_goals cases h

theorem memberValues_cons_eq_ok {n : Nat} {name : Option String} {d : Draft}
    {rest : List (Option String × Draft)} {vs : List (String × Json)} :
    Draft.memberValues n ((name, d) :: rest) = .ok vs ↔
      ∃ s j js, name = some s ∧ d.value n = .ok j ∧ Draft.memberValues n rest = .ok js ∧
        vs = (s, j) :: js := by
  cases name with
  | none => simp [Draft.memberValues]
  | some s =>
    rw [Draft.memberValues]
    cases hd : d.value n with
    | error e => simp
    | ok j =>
      cases hr : Draft.memberValues n rest with
      | error e => simp
      | ok js => simp [eq_comm]

variable {slots : List Slot} {strict : Bool}

/-- The members after one that passes the checks pass them too; a name that is a field has been seen
from there on. -/
theorem checkMembers_cons_eq_ok {seen : List String} {name : String} {d : Draft}
    {rest : List (Option String × Draft)}
    (h : checkMembers slots strict seen ((some name, d) :: rest) = .ok ()) :
    (name ∈ slots.map (·.name) ∧ name ∉ seen ∧
        checkMembers slots strict (name :: seen) rest = .ok ()) ∨
      (name ∉ slots.map (·.name) ∧ checkMembers slots strict seen rest = .ok ()) := by
  rw [checkMembers] at h
  split at h
  · next slot hfind =>
    have hslot : name ∈ slots.map (·.name) := by
      have hname : slot.name = name := by simpa using List.find?_some hfind
      exact hname ▸ List.mem_map_of_mem (List.mem_of_find?_eq_some hfind)
    split at h
    · cases h
    · next hseen =>
      split at h
      · cases h
      · exact .inl ⟨hslot, hseen, h⟩
  · next hfind =>
    have hslot : name ∉ slots.map (·.name) := by
      intro hmem
      obtain ⟨slot, hs, hname⟩ := List.mem_map.1 hmem
      simpa [hname] using List.find?_eq_none.1 hfind slot hs
    split at h
    · cases h
    · split at h
      · exact .inr ⟨hslot, h⟩
      · cases h

/-- A field that has been seen does not come again. -/
theorem ne_of_mem_seen {n : Nat} {seen : List String} {members : List (Option String × Draft)}
    {vs : List (String × Json)} (hc : checkMembers slots strict seen members = .ok ())
    (hv : Draft.memberValues n members = .ok vs) {name : String}
    (hslot : name ∈ slots.map (·.name)) (hseen : name ∈ seen) : ∀ m ∈ vs, m.1 ≠ name := by
  induction members generalizing seen vs with
  | nil =>
    obtain rfl : vs = [] := by simpa [Draft.memberValues, eq_comm] using hv
    simp
  | cons m rest ih =>
    obtain ⟨s, j, js, hs, -, hrest, rfl⟩ := memberValues_cons_eq_ok.1 hv
    obtain ⟨m, d⟩ := m
    obtain rfl : m = some s := hs
    intro p hp
    rcases checkMembers_cons_eq_ok hc with ⟨-, hnew, hc⟩ | ⟨hno, hc⟩
    · rcases List.mem_cons.1 hp with rfl | hp
      · rintro rfl
        exact hnew hseen
      · exact ih hc hrest (List.mem_cons_of_mem s hseen) p hp
    · rcases List.mem_cons.1 hp with rfl | hp
      · rintro rfl
        exact hno hslot
      · exact ih hc hrest hseen p hp

/-- **The member that a record takes for a field is the one that a look at the value finds.** -/
theorem get?_of_checkMembers {n : Nat} {seen : List String}
    {members : List (Option String × Draft)} {vs : List (String × Json)}
    (hc : checkMembers slots strict seen members = .ok ())
    (hv : Draft.memberValues n members = .ok vs)
    {name : String} (hslot : name ∈ slots.map (·.name)) {d : Draft}
    (hfind : findMember members name = some d) :
    ∃ j, d.value n = .ok j ∧ (Json.object vs).get? name = some j := by
  induction members generalizing seen vs with
  | nil => simp [findMember] at hfind
  | cons m rest ih =>
    obtain ⟨s, j, js, hs, hj, hrest, rfl⟩ := memberValues_cons_eq_ok.1 hv
    obtain ⟨m, d'⟩ := m
    obtain rfl : m = some s := hs
    simp only [get?, List.reverse_cons, List.find?_append]
    rcases eq_or_ne s name with rfl | hne
    · -- This is the member that the record takes, and no other of its name follows.
      obtain ⟨hnew, hc⟩ : s ∉ seen ∧ checkMembers slots strict (s :: seen) rest = .ok () := by
        rcases checkMembers_cons_eq_ok hc with ⟨-, h⟩ | ⟨hno, -⟩
        · exact h
        · exact absurd hslot hno
      have hnone : js.reverse.find? (fun m => decide (m.1 = s)) = none := by
        refine List.find?_eq_none.2 fun m hm => ?_
        simpa using ne_of_mem_seen hc hrest hslot List.mem_cons_self m (List.mem_reverse.1 hm)
      obtain rfl : d' = d := by simpa [findMember] using hfind
      exact ⟨j, hj, by simp [hnone]⟩
    · have hfind : findMember rest name = some d := by
        rw [findMember, List.find?_cons_of_neg (by simpa using hne)] at hfind
        exact hfind
      obtain ⟨k, hk, hget⟩ : ∃ k, d.value n = .ok k ∧ (Json.object js).get? name = some k := by
        rcases checkMembers_cons_eq_ok hc with ⟨-, -, hc⟩ | ⟨-, hc⟩ <;> exact ih hc hrest hfind
      obtain ⟨m, hm, rfl⟩ := Option.map_eq_some_iff.1 hget
      exact ⟨m.2, hk, by rw [hm, Option.some_or, Option.map_some]⟩

end Moderation.Json

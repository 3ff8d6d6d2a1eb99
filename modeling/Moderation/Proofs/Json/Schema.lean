import Moderation.Json.Schema
import Moderation.Proofs.Json.Fields
/-!
# What a schema accepts

What a schema accepts has the shape of the schema all the way down, so something can be said of it
leaf by leaf (`Schema.leaves`): what holds of all that is accepted holds at each leaf
(`Schema.leaves_of_accepts`), and no record in it has a member that the schema does not name
(`Schema.knows_of_accepts`).
-/

namespace Moderation.Json

/-! ## Names in objects -/

/-- Something holds of the names of the members of each object in a value. -/
inductive EachObject (p : List String → Prop) : Json → Prop where
  | null : EachObject p .null
  | bool (b : Bool) : EachObject p (.bool b)
  | int (n : Int) : EachObject p (.int n)
  | float (x : Double) : EachObject p (.float x)
  | string (s : String) : EachObject p (.string s)
  | array {items : List Json} (h : ∀ j ∈ items, EachObject p j) : EachObject p (.array items)
  | object {members : List (String × Json)} (names : p (members.map (·.1)))
      (h : ∀ m ∈ members, EachObject p m.2) : EachObject p (.object members)

section

variable {p : List String → Prop} {items : List Json} {members : List (String × Json)}

theorem eachObject_array_iff :
    EachObject p (.array items) ↔ ∀ j ∈ items, EachObject p j :=
  ⟨fun | .array h => h, .array⟩

theorem eachObject_object_iff :
    EachObject p (.object members) ↔
      p (members.map (·.1)) ∧ ∀ m ∈ members, EachObject p m.2 :=
  ⟨fun | .object names h => ⟨names, h⟩, fun h => .object h.1 h.2⟩

end

/-- No object in a value has two members of one name. -/
abbrev Distinct (j : Json) : Prop := j.EachObject List.Nodup

namespace Schema

/-! ## Along a schema -/

mutual

/-- Whether something holds at each leaf of a schema.  Members that the schema does not name are no
leaves. -/
def leaves (p : Schema → Json → Bool) : Schema → Json → Bool
  | .list item, .array items => items.all fun j => leaves p item j
  | .record _ members, .object entries => entries.all fun e => leavesMember p members e.1 e.2
  | schema, j => p schema j

/-- Whether it holds at the leaves of a member. -/
def leavesMember (p : Schema → Json → Bool) : List (String × Schema) → String → Json → Bool
  | [], _, _ => false
  | (name, schema) :: rest, found, j =>
    if name = found then leaves p schema j else leavesMember p rest found j

end

mutual

/-- Whether something holds of all names in a schema. -/
def namesAll (p : String → Bool) : Schema → Bool
  | .list item => namesAll p item
  | .record _ members => namesAllIn p members
  | _ => true

/-- Whether it holds of all names in the members of a record. -/
def namesAllIn (p : String → Bool) : List (String × Schema) → Bool
  | [] => true
  | (name, schema) :: rest => p name && namesAll p schema && namesAllIn p rest

end

/-- Whether each member of each record is one that the schema names. -/
def knows (schema : Schema) (j : Json) : Bool := schema.leaves (fun _ _ => true) j

/-! ## What a schema accepts -/

section Accepting

variable {least : Nat} {beginnings texts required : List String} {bound : Int} {item : Schema}
  {members : List (String × Schema)} {entries : List (String × Json)} {name : String} {j : Json}
  {p : Schema → Json → Bool}

theorem text_of_accepts (h : (Schema.text least beginnings).accepts j = true) :
    ∃ s, j = .string s ∧ ∃ b ∈ beginnings, s.startsWith b = true := by
  cases j <;> simp_all [accepts]

theorem choice_of_accepts (h : (Schema.choice texts).accepts j = true) :
    ∃ s ∈ texts, j = .string s := by
  cases j <;> simp_all [accepts]

theorem truth_of_accepts (h : Schema.truth.accepts j = true) : ∃ b, j = .bool b := by
  cases j <;> simp_all [accepts]

theorem integer_of_accepts (h : (Schema.integer bound).accepts j = true) :
    (∃ n, j = .int n ∧ bound ≤ n) ∨ ∃ x, j = .float x := by
  cases j <;> simp_all [accepts]

theorem list_of_accepts (h : (Schema.list item).accepts j = true) :
    ∃ items, j = .array items ∧ ∀ i ∈ items, item.accepts i = true := by
  cases j <;> simp_all [accepts]

theorem acceptsMember_iff :
    acceptsMember members name j = true ↔
      ∃ schema, members.lookup name = some schema ∧ schema.accepts j = true := by
  induction members with
  | nil => simp [acceptsMember]
  | cons m rest ih =>
    obtain ⟨first, schema⟩ := m
    rcases eq_or_ne first name with rfl | hne
    · simp [acceptsMember]
    · rw [acceptsMember, if_neg hne, ih, List.lookup_cons, beq_false_of_ne hne.symm]

theorem leavesMember_iff :
    leavesMember p members name j = true ↔
      ∃ schema, members.lookup name = some schema ∧ schema.leaves p j = true := by
  induction members with
  | nil => simp [leavesMember]
  | cons m rest ih =>
    obtain ⟨first, schema⟩ := m
    rcases eq_or_ne first name with rfl | hne
    · simp [leavesMember]
    · rw [leavesMember, if_neg hne, ih, List.lookup_cons, beq_false_of_ne hne.symm]

theorem namesAll_of_lookup {p : String → Bool} {schema : Schema}
    (hp : namesAllIn p members = true) (h : members.lookup name = some schema) :
    p name = true ∧ schema.namesAll p = true := by
  induction members with
  | nil => cases h
  | cons m rest ih =>
    obtain ⟨first, found⟩ := m
    rw [namesAllIn, Bool.and_eq_true, Bool.and_eq_true] at hp
    rcases eq_or_ne first name with rfl | hne
    · rw [List.lookup_cons_self] at h
      obtain rfl := Option.some.inj h
      exact hp.1
    · rw [List.lookup_cons, beq_false_of_ne hne.symm] at h
      exact ih hp.2 h

theorem record_of_accepts (h : (Schema.record required members).accepts j = true) :
    ∃ entries, j = .object entries ∧ (∀ name ∈ required, name ∈ entries.map (·.1)) ∧
      ∀ e ∈ entries, ∃ schema, members.lookup e.1 = some schema ∧ schema.accepts e.2 = true := by
  cases j with
  | object entries =>
    rw [accepts, Bool.and_eq_true, List.all_eq_true, List.all_eq_true] at h
    refine ⟨entries, rfl, fun name hname => ?_, fun e he => acceptsMember_iff.1 (h.2 e he)⟩
    obtain ⟨e, he, heq⟩ := List.any_eq_true.1 (h.1 name hname)
    exact List.mem_map.2 ⟨e, he, of_decide_eq_true heq⟩
  | _ => simp [accepts] at h

end Accepting

mutual

/-- What holds of all that is accepted holds at each leaf of what is accepted. -/
theorem leaves_of_accepts {p : Schema → Json → Bool}
    (hp : ∀ schema j, accepts schema j = true → p schema j = true) (schema : Schema) (j : Json)
    (h : schema.accepts j = true) : schema.leaves p j = true := by
  match schema with
  | .list item =>
    obtain ⟨items, rfl, hitems⟩ := list_of_accepts h
    rw [leaves, List.all_eq_true]
    exact fun i hi => leaves_of_accepts hp item i (hitems i hi)
  | .record required members =>
    obtain ⟨entries, rfl, -, hentries⟩ := record_of_accepts h
    rw [leaves, List.all_eq_true]
    exact fun e he =>
      leavesMember_of_accepts hp members e.1 e.2 (acceptsMember_iff.2 (hentries e he))
  | .text .. | .choice _ | .truth | .integer _ => exact hp _ j h

theorem leavesMember_of_accepts {p : Schema → Json → Bool}
    (hp : ∀ schema j, accepts schema j = true → p schema j = true)
    (members : List (String × Schema)) (name : String) (j : Json)
    (h : acceptsMember members name j = true) : leavesMember p members name j = true := by
  match members with
  | [] => cases h
  | (first, schema) :: rest =>
    rw [acceptsMember] at h
    rw [leavesMember]
    split at h
    · next hname =>
      rw [if_pos hname]
      exact leaves_of_accepts hp schema j h
    · next hname =>
      rw [if_neg hname]
      exact leavesMember_of_accepts hp rest name j h

end

/-- **What a schema accepts has no members but those that it names.** -/
theorem knows_of_accepts {schema : Schema} {j : Json} (h : schema.accepts j = true) :
    schema.knows j = true :=
  leaves_of_accepts (fun _ _ _ => rfl) schema j h

end Schema
end Moderation.Json

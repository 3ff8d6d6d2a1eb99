import Moderation.Proofs.Json.Schema
/-!
# What is read off accepted values

A record that is read off an accepted value has under the name of each field what the schema asks
for there (`Schema.Admitted.of_required`, `Schema.Admitted.of_defaulted`).  Two relations between a
schema and a decoder follow the way decoders are put together.  A decoder **gives** something
(`Schema.Gives`) if that holds of all that it reads off accepted values.  It **keeps** its schema
(`Schema.KeptBy`) if what it reads off an accepted value is, when it is written again, that value
with the members filled in that it leaves out (`Schema.completed`).
-/

namespace Moderation.Json.Schema

/-! ## Records -/

/-- An object whose members a schema accepts and that passes the checks of a record. -/
structure Admitted (members : List (String × Schema)) (slots : List Slot)
    (entries : List (String × Json)) : Prop where
  accepted : ∀ e ∈ entries, ∃ schema, members.lookup e.1 = some schema ∧ schema.accepts e.2 = true
  checked : checkMembers slots false [] (memberDrafts entries) = .ok ()

section

variable {α : Type} {d : Decoder α} {schema : Schema} {required : List String}
  {members : List (String × Schema)} {slots : List Slot} {entries : List (String × Json)}
  {name : String} {a : α}

/-- An accepted value that is read as a record is an object, and the record is built from its
members. -/
theorem admitted_of_record {x : Fields α} {j : Json}
    (hj : (Schema.record required members).accepts j = true)
    (ha : Decoder.record false x j.toDraft = .ok a) :
    ∃ entries, j = .object entries ∧ Admitted members x.slots entries ∧
      x.build (findMember (memberDrafts entries)) = .ok a := by
  obtain ⟨entries, rfl, -, haccepted⟩ := record_of_accepts hj
  obtain ⟨hchecked, -, hbuilt⟩ := Decoder.record_object_eq_ok.1 ha
  exact ⟨entries, rfl, ⟨haccepted, hchecked⟩, hbuilt⟩

namespace Admitted

theorem exists_of_find (h : Admitted members slots entries)
    (hslot : name ∈ slots.map (·.name)) (hmember : members.lookup name = some schema) {v : Draft}
    (hv : findMember (memberDrafts entries) name = some v) :
    ∃ j, (Json.object entries).get? name = some j ∧ schema.accepts j = true ∧ j.toDraft = v := by
  rw [findMember_of_checkMembers h.checked hslot] at hv
  obtain ⟨j, hget, rfl⟩ := Option.map_eq_some_iff.1 hv
  obtain ⟨found, hfound, haccepts⟩ := h.accepted _ (mem_of_get? hget)
  obtain rfl := Option.some.inj (hmember.symm.trans hfound)
  exact ⟨j, hget, haccepts, rfl⟩

/-- A field that has to be there is read off what the schema asks for. -/
theorem of_required (h : Admitted members slots entries)
    (hslot : name ∈ slots.map (·.name)) (hmember : members.lookup name = some schema)
    (hb : (Fields.required name d).build (findMember (memberDrafts entries)) = .ok a) :
    ∃ j, (Json.object entries).get? name = some j ∧ schema.accepts j = true ∧
      d j.toDraft = .ok a := by
  obtain ⟨v, hv, ha⟩ := Fields.build_required_eq_ok.1 hb
  obtain ⟨j, hget, haccepts, rfl⟩ := h.exists_of_find hslot hmember hv
  exact ⟨j, hget, haccepts, ha⟩

/-- A field with a default is read off what the schema asks for, or is not there. -/
theorem of_defaulted {value : α} (h : Admitted members slots entries)
    (hslot : name ∈ slots.map (·.name)) (hmember : members.lookup name = some schema)
    (hb : (Fields.defaulted name d value).build (findMember (memberDrafts entries)) = .ok a) :
    (∃ j, (Json.object entries).get? name = some j ∧ schema.accepts j = true ∧
        d j.toDraft = .ok a) ∨
      ((Json.object entries).get? name = none ∧ a = value) := by
  rcases Fields.build_defaulted_eq_ok.1 hb with ⟨v, hv, ha⟩ | ⟨hnone, rfl⟩
  · obtain ⟨j, hget, haccepts, rfl⟩ := h.exists_of_find hslot hmember hv
    exact .inl ⟨j, hget, haccepts, ha⟩
  · rw [findMember_of_checkMembers h.checked hslot, Option.map_eq_none_iff] at hnone
    exact .inr ⟨hnone, rfl⟩

end Admitted

/-! ## What decoders give -/

/-- Something holds of all that is read off accepted values. -/
def Gives (schema : Schema) (d : Decoder α) (P : α → Prop) : Prop :=
  ∀ j a, schema.accepts j = true → d j.toDraft = .ok a → P a

theorem gives_text (least : Nat) (beginnings : List String) :
    (Schema.text least beginnings).Gives Decoder.string fun s =>
      ∃ b ∈ beginnings, s.startsWith b = true := by
  intro j s hj hs
  obtain ⟨t, rfl, hbegins⟩ := text_of_accepts hj
  rw [← Except.ok.inj hs]
  exact hbegins

theorem Gives.list {P : α → Prop} (h : schema.Gives d P) :
    (Schema.list schema).Gives d.list fun as => ∀ a ∈ as, P a := by
  intro j as hj has
  obtain ⟨items, rfl, hitems⟩ := list_of_accepts hj
  rw [Decoder.list_toDraft, mapM_eq_ok_iff] at has
  clear hj
  induction has with
  | nil => exact fun a ha => absurd ha List.not_mem_nil
  | cons ha _ ih =>
    rw [List.forall_mem_cons] at hitems ⊢
    exact ⟨h _ _ hitems.1 ha, ih hitems.2⟩

theorem Admitted.given_required {P : α → Prop} (h : Admitted members slots entries)
    (hslot : name ∈ slots.map (·.name)) (hmember : members.lookup name = some schema)
    (hgives : schema.Gives d P)
    (hb : (Fields.required name d).build (findMember (memberDrafts entries)) = .ok a) : P a := by
  obtain ⟨j, -, haccepts, ha⟩ := h.of_required hslot hmember hb
  exact hgives j a haccepts ha

theorem Admitted.given_defaulted {P : α → Prop} {value : α} (h : Admitted members slots entries)
    (hslot : name ∈ slots.map (·.name)) (hmember : members.lookup name = some schema)
    (hgives : schema.Gives d P) (hvalue : P value)
    (hb : (Fields.defaulted name d value).build (findMember (memberDrafts entries)) = .ok a) :
    P a := by
  rcases h.of_defaulted hslot hmember hb with ⟨j, -, haccepts, ha⟩ | ⟨-, rfl⟩
  · exact hgives j a haccepts ha
  · exact hvalue

end

/-! ## Defaults filled in -/

mutual

/-- A value whose records have all members that a schema names, in its order; those that are missing
have a default. -/
def completed (default : String → Json) : Schema → Json → Json
  | .list item, .array items => .array (items.map fun j => completed default item j)
  | .record _ members, .object entries =>
    .object (completedMembers default members (.object entries))
  | _, j => j

/-- The members of a record, those that are missing filled in. -/
def completedMembers (default : String → Json) : List (String × Schema) → Json →
    List (String × Json)
  | [], _ => []
  | (name, schema) :: rest, j =>
    (name, completed default schema ((j.get? name).getD (default name))) ::
      completedMembers default rest j

end

theorem completedMembers_cons {default : String → Json} {name : String} {schema : Schema}
    {rest : List (String × Schema)} {j v : Json} {vs : List (String × Json)}
    (hv : schema.completed default ((j.get? name).getD (default name)) = v)
    (hrest : completedMembers default rest j = vs) :
    completedMembers default ((name, schema) :: rest) j = (name, v) :: vs := by
  rw [completedMembers, hv, hrest]

/-! ## Decoders that keep a schema -/

/-- What is read off an accepted value is, when it is written, that value with its members filled
in. -/
def KeptBy {α : Type} (schema : Schema) (default : String → Json) (d : Decoder α)
    (write : α → Json) : Prop :=
  ∀ j a, schema.accepts j = true → d j.toDraft = .ok a → schema.completed default j = write a

section Keeping

variable {α : Type} {default : String → Json} {d : Decoder α} {write : α → Json}

@[simp] theorem completed_string (schema : Schema) (s : String) :
    schema.completed default (.string s) = .string s := by
  cases schema <;> rfl

@[simp] theorem completed_bool (schema : Schema) (b : Bool) :
    schema.completed default (.bool b) = .bool b := by
  cases schema <;> rfl

@[simp] theorem completed_int (schema : Schema) (n : Int) :
    schema.completed default (.int n) = .int n := by
  cases schema <;> rfl

theorem kept_text (least : Nat) (beginnings : List String) :
    (Schema.text least beginnings).KeptBy default Decoder.string .string := by
  intro j s hj hs
  obtain ⟨t, rfl, -⟩ := text_of_accepts hj
  rw [← Except.ok.inj hs, completed_string]

theorem kept_truth : Schema.truth.KeptBy default Decoder.bool .bool := by
  intro j b hj hb
  obtain ⟨c, rfl⟩ := truth_of_accepts hj
  rw [← Except.ok.inj hb, completed_bool]

theorem kept_word (bound : Int) :
    (Schema.integer bound).KeptBy default Decoder.word64 fun n => .int n.toNat := by
  intro j n hj hn
  rcases integer_of_accepts hj with ⟨i, rfl, -⟩ | ⟨x, rfl⟩
  · simp only [toDraft, Decoder.word64] at hn
    split at hn
    · next hi =>
      rw [Bool.and_eq_true, decide_eq_true_eq, decide_eq_true_eq] at hi
      have hword : (UInt64.ofNat i.toNat).toNat = i.toNat := UInt64.toNat_ofNat_of_lt' (by omega)
      rw [← Except.ok.inj hn, completed_int]
      simp only [hword, Int.toNat_of_nonneg hi.1]
    · cases hn
  · cases hn

theorem KeptBy.list {item : Schema} (h : item.KeptBy default d write) :
    (Schema.list item).KeptBy default d.list fun as => .array (as.map write) := by
  intro j as hj has
  obtain ⟨items, rfl, hitems⟩ := list_of_accepts hj
  rw [Decoder.list_toDraft, mapM_eq_ok_iff] at has
  rw [completed, array.injEq]
  clear hj
  induction has with
  | nil => rfl
  | cons ha _ ih =>
    rw [List.forall_mem_cons] at hitems
    rw [List.map_cons, List.map_cons, h _ _ hitems.1 ha, ih hitems.2]

/-- A value that is there is kept where null is taken for one that is not. -/
theorem KeptBy.option {schema : Schema} (h : schema.KeptBy default d write)
    (hnull : schema.accepts .null = false) :
    schema.KeptBy default d.option fun a => (a.map write).getD .null := by
  intro j a hj ha
  have hne : j ≠ .null := by
    rintro rfl
    rw [hj] at hnull
    cases hnull
  rw [Decoder.option_toDraft hne, map_eq_ok] at ha
  obtain ⟨b, hb, rfl⟩ := ha
  exact h j b hj hb

/-- A record is kept if the members that it is built from are. -/
theorem KeptBy.record {required : List String} {members : List (String × Schema)} {x : Fields α}
    {write : α → List (String × Json)}
    (h : ∀ entries a, Admitted members x.slots entries →
      x.build (findMember (memberDrafts entries)) = .ok a →
        completedMembers default members (.object entries) = write a) :
    (Schema.record required members).KeptBy default (Decoder.record false x)
      fun a => .object (write a) := by
  intro j a hj ha
  obtain ⟨entries, rfl, hadmitted, hbuilt⟩ := admitted_of_record hj ha
  rw [completed, h entries a hadmitted hbuilt]

namespace Admitted

variable {members : List (String × Schema)} {slots : List Slot} {entries : List (String × Json)}
  {schema : Schema} {name : String} {a : α}

/-- What a field with no default is read off is completed to what the field is written as. -/
theorem completed_required (h : Admitted members slots entries)
    (hslot : name ∈ slots.map (·.name)) (hmember : members.lookup name = some schema)
    (hkept : schema.KeptBy default d write)
    (hb : (Fields.required name d).build (findMember (memberDrafts entries)) = .ok a) :
    schema.completed default (((Json.object entries).get? name).getD (default name)) = write a := by
  obtain ⟨j, hget, haccepts, ha⟩ := h.of_required hslot hmember hb
  rw [hget, Option.getD_some]
  exact hkept j a haccepts ha

theorem completed_defaulted {value : α} (h : Admitted members slots entries)
    (hslot : name ∈ slots.map (·.name)) (hmember : members.lookup name = some schema)
    (hkept : schema.KeptBy default d write)
    (hvalue : schema.completed default (default name) = write value)
    (hb : (Fields.defaulted name d value).build (findMember (memberDrafts entries)) = .ok a) :
    schema.completed default (((Json.object entries).get? name).getD (default name)) = write a := by
  rcases h.of_defaulted hslot hmember hb with ⟨j, hget, haccepts, ha⟩ | ⟨hnone, rfl⟩
  · rw [hget, Option.getD_some]
    exact hkept j a haccepts ha
  · rw [hnone, Option.getD_none]
    exact hvalue

end Admitted
end Keeping

end Moderation.Json.Schema

import Moderation.Proofs.Json.Schema
/-!
# Schemas and decoders of one format

A schema and a decoder are two descriptions of one format.  They **agree** (`Schema.AgreesWith`) if
the decoder reads all that the schema accepts, save for numbers that are no words of sixty-four
bits: for a schema a number is an integer by its value, for a decoder by the way it is written.
Whether they do follows the way both are put together; the record of some fields agrees with the
record of some members if each field agrees with its member (`Schema.Matches.record`).
-/

namespace Moderation.Json

namespace Schema

/-- Whether a number that should be an integer is one of sixty-four bits, written as such. -/
def isWordAt : Schema → Json → Bool
  | .integer _, .int n => 0 ≤ n && n < UInt64.size
  | .integer _, _ => false
  | _, _ => true

/-- Whether each number that should be an integer is a word. -/
def hasWords (schema : Schema) (j : Json) : Bool := schema.leaves isWordAt j

/-! ## Decoders that agree with a schema -/

/-- What is accepted is read exactly if each number in it that should be an integer is a word. -/
def AgreesWith {α : Type} (schema : Schema) (d : Decoder α) : Prop :=
  ∀ j, j.Distinct → schema.accepts j = true → (d.Takes j ↔ schema.hasWords j = true)

section Agreeing

variable {α β : Type} {d : Decoder α} {schema : Schema}

theorem agrees_text (least : Nat) (beginnings : List String) :
    (Schema.text least beginnings).AgreesWith Decoder.string := by
  intro j _ hj
  obtain ⟨s, rfl, -⟩ := text_of_accepts hj
  exact iff_of_true ⟨s, rfl⟩ rfl

theorem agrees_truth : Schema.truth.AgreesWith Decoder.bool := by
  intro j _ hj
  obtain ⟨b, rfl⟩ := truth_of_accepts hj
  exact iff_of_true ⟨b, rfl⟩ rfl

theorem agrees_word (bound : Int) : (Schema.integer bound).AgreesWith Decoder.word64 := by
  intro j _ hj
  rcases integer_of_accepts hj with ⟨n, rfl, -⟩ | ⟨x, rfl⟩
  · by_cases hn : (0 ≤ n && n < UInt64.size) = true
    · exact iff_of_true ⟨_, if_pos hn⟩ hn
    · refine iff_of_false (fun ⟨a, ha⟩ => ?_) hn
      rw [toDraft, Decoder.word64, if_neg hn] at ha
      cases ha
  · exact iff_of_false (fun ⟨a, ha⟩ => nomatch ha) nofun

theorem AgreesWith.list (h : schema.AgreesWith d) : (Schema.list schema).AgreesWith d.list := by
  intro j hdistinct hj
  obtain ⟨items, rfl, hitems⟩ := list_of_accepts hj
  have hitem := eachObject_array_iff.1 hdistinct
  rw [Decoder.takes_list, hasWords, leaves, List.all_eq_true]
  exact forall₂_congr fun i hi => h i (hitem i hi) (hitems i hi)

theorem AgreesWith.option (h : schema.AgreesWith d) (hnull : schema.accepts .null = false) :
    schema.AgreesWith d.option := by
  intro j hdistinct hj
  have hne : j ≠ .null := by
    rintro rfl
    rw [hj] at hnull
    cases hnull
  rw [← h j hdistinct hj, Decoder.Takes, Decoder.option_toDraft hne]
  constructor
  · rintro ⟨a, ha⟩
    obtain ⟨b, hb, -⟩ := map_eq_ok.1 ha
    exact ⟨b, hb⟩
  · rintro ⟨b, hb⟩
    exact ⟨some b, map_eq_ok.2 ⟨b, hb, rfl⟩⟩

/-- A field and a member of a schema that describe the same. -/
structure Describes (required : List String) (m : String × Schema) (slot : Slot) : Prop where
  name : slot.name = m.1
  required : slot.absence = .required → m.1 ∈ required
  check : ∀ j, j.Distinct → m.2.accepts j = true →
    (slot.check j.toDraft = .ok () ↔ m.2.hasWords j = true)

section Describing

variable {needed : List String} {ms : List (String × Schema)} {slots : List Slot}

theorem slots_names (h : List.Forall₂ (Describes needed) ms slots) :
    slots.map (·.name) = ms.map (·.1) := by
  induction h with
  | nil => rfl
  | cons hd _ ih => rw [List.map_cons, List.map_cons, hd.name, ih]

theorem exists_slot (h : List.Forall₂ (Describes needed) ms slots) {m : String × Schema}
    (hm : m ∈ ms) : ∃ slot ∈ slots, Describes needed m slot := by
  induction h with
  | nil => cases hm
  | cons hd _ ih =>
    rcases List.mem_cons.1 hm with rfl | hm
    · exact ⟨_, List.mem_cons_self, hd⟩
    · obtain ⟨slot, hslot, hd⟩ := ih hm
      exact ⟨slot, List.mem_cons_of_mem _ hslot, hd⟩

theorem exists_member (h : List.Forall₂ (Describes needed) ms slots) {slot : Slot}
    (hslot : slot ∈ slots) : ∃ m ∈ ms, Describes needed m slot := by
  induction h with
  | nil => cases hslot
  | cons hd _ ih =>
    rcases List.mem_cons.1 hslot with rfl | hslot
    · exact ⟨_, List.mem_cons_self, hd⟩
    · obtain ⟨m, hm, hd⟩ := ih hslot
      exact ⟨m, List.mem_cons_of_mem _ hm, hd⟩

end Describing

/-- Fields and members of a schema that describe the same. -/
structure Matches (required : List String) (members : List (String × Schema)) (x : Fields α) :
    Prop where
  lawful : x.Lawful
  matched : List.Forall₂ (Describes required) members x.slots

namespace Matches

variable {needed : List String} {name : String} {ms ns : List (String × Schema)}

theorem required (hname : name ∈ needed) (h : schema.AgreesWith d) :
    Matches needed [(name, schema)] (Fields.required name d) where
  lawful := Fields.lawful_required name d
  matched := by
    refine .cons ⟨rfl, fun _ => hname, fun j hdistinct hj => ?_⟩ .nil
    rw [← h j hdistinct hj, map_eq_ok]
    simp [Decoder.Takes]

theorem defaulted (name : String) (value : α) (h : schema.AgreesWith d) :
    Matches needed [(name, schema)] (Fields.defaulted name d value) where
  lawful := Fields.lawful_defaulted name d value
  matched := by
    refine .cons ⟨rfl, nofun, fun j hdistinct hj => ?_⟩ .nil
    rw [← h j hdistinct hj, map_eq_ok]
    simp [Decoder.Takes]

theorem optional (name : String) (h : schema.AgreesWith d.option) :
    Matches needed [(name, schema)] (Fields.optional name d) where
  lawful := Fields.lawful_optional name d
  matched := by
    refine .cons ⟨rfl, nofun, fun j hdistinct hj => ?_⟩ .nil
    rw [← h j hdistinct hj, map_eq_ok]
    simp [Decoder.Takes]

theorem map (f : α → β) {x : Fields α} (h : Matches needed ms x) :
    Matches needed ms (f <$> x) where
  lawful := h.lawful.map f
  matched := h.matched

theorem seq {f : Fields (α → β)} {x : Fields α} (hf : Matches needed ms f)
    (hx : Matches needed ns x) : Matches needed (ms ++ ns) (f <*> x) where
  lawful := hf.lawful.seq hx.lawful
  matched := List.rel_append hf.matched hx.matched

/-- **Where the fields of a record and the members of a schema describe the same, so do the record
and the schema.** -/
theorem record {x : Fields α} (h : Matches needed ms x) (hn : (ms.map (·.1)).Nodup) :
    (Schema.record needed ms).AgreesWith (Decoder.record false x) := by
  intro j hdistinct hj
  obtain ⟨entries, rfl, hneeded, hentries⟩ := record_of_accepts hj
  obtain ⟨hnames, hdistinct⟩ := eachObject_object_iff.1 hdistinct
  have hmember : ∀ e ∈ entries, ∃ schema, (e.1, schema) ∈ ms ∧ ms.lookup e.1 = some schema ∧
      schema.accepts e.2 = true := by
    intro e he
    obtain ⟨schema, hlookup, haccepts⟩ := hentries e he
    obtain ⟨front, back, rfl, -⟩ := List.lookup_eq_some_iff.1 hlookup
    exact ⟨schema, by simp, hlookup, haccepts⟩
  have hknown : ∀ e ∈ entries, e.1 ∈ x.slots.map (·.name) := by
    intro e he
    obtain ⟨schema, hm, -⟩ := hmember e he
    rw [slots_names h.matched]
    exact List.mem_map_of_mem hm
  rw [h.lawful.takes_iff (slots_names h.matched ▸ hn) hnames hknown, hasWords, leaves,
    List.all_eq_true]
  constructor
  · intro hadmits e he
    obtain ⟨schema, hm, hlookup, haccepts⟩ := hmember e he
    obtain ⟨slot, hslot, hd⟩ := exists_slot h.matched hm
    have hcheck := hadmits slot hslot
    rw [hd.name, get?_of_mem hnames he] at hcheck
    exact leavesMember_iff.2 ⟨schema, hlookup, (hd.check e.2 (hdistinct e he) haccepts).1 hcheck⟩
  · intro hwords slot hslot
    obtain ⟨⟨name, schema⟩, hm, hd⟩ := exists_member h.matched hslot
    rw [hd.name]
    cases hget : (Json.object entries).get? name with
    | none => exact fun habsent => get?_eq_none_iff.1 hget (hneeded _ (hd.required habsent))
    | some k =>
      have he := mem_of_get? hget
      obtain ⟨named, hnamed, hlookup, haccepts⟩ := hmember _ he
      have hsame : (name, schema) = (name, named) := List.inj_on_of_nodup_map hn hm hnamed rfl
      obtain rfl := (Prod.mk.inj hsame).2
      obtain ⟨found, hfound, hleaves⟩ := leavesMember_iff.1 (hwords _ he)
      obtain rfl := Option.some.inj (hlookup.symm.trans hfound)
      exact (hd.check k (hdistinct _ he) haccepts).2 hleaves

end Matches
end Agreeing

end Schema
end Moderation.Json

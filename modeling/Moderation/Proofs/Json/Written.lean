import Moderation.Proofs.Json.Members
import Moderation.Proofs.Lookup
/-!
# What a decoder reads back

`Decoder.Reads d j a` says that the value `j` can stand for `a`: its text is exact, and `d` reads
`a` off it.  The relation follows the way decoders are put together.  A text, a truth value, an
integer and a name are read as they are written (`Decoder.reads_string` and after); an option, a
list and a record are read as their parts are (`Decoder.Reads.some`, `Decoder.reads_list`,
`Fields.Reads.record`).

A record is described by its fields, and the description is applicative: `Fields.Reads` has a lemma
for each way to build one.  That the fields have different names is asked once, where the
description is complete.
-/

namespace Moderation.Json

/-! ## Values -/

namespace Decoder

variable {α : Type} {d : Decoder α} {j : Json} {a : α}

/-- A value whose text is exact and that a decoder reads as `a`. -/
structure Reads (d : Decoder α) (j : Json) (a : α) : Prop where
  isExact : j.isExact = true
  decoded : d j.toDraft = .ok a

/-- What is read off a value is read off its text. -/
theorem Reads.ofText_render (h : d.Reads j a) : d.ofText j.render = .ok a := by
  rw [Decoder.ofText_render d j h.isExact, h.decoded]

theorem reads_string (s : String) : Decoder.string.Reads (.string s) s := ⟨rfl, rfl⟩

theorem reads_bool (b : Bool) : Decoder.bool.Reads (.bool b) b := ⟨rfl, rfl⟩

theorem reads_int64 (n : Int64) : Decoder.int64.Reads (.int n.toInt) n := by
  have hle : Int64.minValue.toInt ≤ n.toInt := Int64.minValue_le_toInt n
  have hge : n.toInt ≤ Int64.maxValue.toInt := Int64.toInt_le n
  refine ⟨?_, ?_⟩
  · have hmin : Int64.minValue.toInt = -(UInt64.size / 2 : Nat) := rfl
    have hmax : Int64.maxValue.toInt < UInt64.size := by decide
    simp only [isExact, inWords, Bool.and_eq_true, decide_eq_true_eq]
    omega
  · simp only [toDraft, int64, hle, hge, decide_true, Bool.and_self, if_true, Int64.ofInt_toInt]

/-- A name that is known is read as what it names. -/
theorem reads_name {isNothing : Draft → Bool} {read : String → Option α} {s : String}
    (h : read s = some a) : (Decoder.name isNothing read).Reads (.string s) a :=
  ⟨rfl, by simp only [toDraft, Decoder.name, h]⟩

theorem reads_null : d.option.Reads .null none := ⟨rfl, rfl⟩

/-- A value that is there is read as an option, unless it is written as null. -/
theorem Reads.some (h : d.Reads j a) (hj : j ≠ .null) : d.option.Reads j (some a) := by
  refine ⟨h.isExact, ?_⟩
  have hdecoded := h.decoded
  cases j with
  | null => exact absurd rfl hj
  | _ => simp only [toDraft, option] at hdecoded ⊢; rw [hdecoded]; rfl

/-- A list is read as its items are. -/
theorem reads_list {enc : α → Json} (h : ∀ a, d.Reads (enc a) a) (as : List α) :
    d.list.Reads (.array (as.map enc)) as := by
  have hitems : itemsExact (as.map enc) = true ∧ (itemDrafts (as.map enc)).mapM d = .ok as := by
    induction as with
    | nil => exact ⟨rfl, rfl⟩
    | cons a as ih =>
      obtain ⟨hexact, hread⟩ := ih
      constructor
      · simp only [List.map_cons, itemsExact, (h a).isExact, hexact, Bool.and_self]
      · simp only [List.map_cons, itemDrafts, List.mapM_cons, (h a).decoded, hread]
        rfl
  refine ⟨by simpa only [isExact] using hitems.1, ?_⟩
  simp only [toDraft, list, hitems.2]
  rfl

end Decoder

/-! ## Members and fields by their names -/

section Names

variable {ms ns : List (String × Json)} {name : String}

/-- A name that is none of the members' is not found among them. -/
theorem findMember_eq_none (h : name ∉ ms.map (·.1)) :
    findMember (memberDrafts ms) name = none := by
  have hnone : (memberDrafts ms).find? (·.1 = some name) = none := by
    rw [memberDrafts_eq_map, List.find?_eq_none]
    intro m hm
    obtain ⟨p, hp, rfl⟩ := List.mem_map.1 hm
    rw [decide_eq_true_eq, Option.some.injEq]
    rintro rfl
    exact h (List.mem_map_of_mem hp)
  rw [findMember, hnone, Option.map_none]

theorem findMember_append :
    findMember (memberDrafts (ms ++ ns)) name =
      (findMember (memberDrafts ms) name).or (findMember (memberDrafts ns) name) := by
  simp only [findMember, memberDrafts_eq_map, List.map_append, List.find?_append]
  cases (ms.map fun m => (some m.1, m.2.toDraft)).find? (·.1 = some name) <;> rfl

end Names

/-! ## Records -/

namespace Fields

variable {α β : Type} {x : Fields α} {a : α} {members ms ns : List (String × Json)}

/-- Members from which a description reads `a`: they are fields in declared order, each of them can
be the value of its field, and `a` is built wherever the fields are found as the members have
them. -/
structure Reads (x : Fields α) (members : List (String × Json)) (a : α) : Prop where
  named : (members.map (·.1)).Sublist (x.slots.map (·.name))
  checked : ∀ m ∈ members, m.2.isExact = true ∧
    ∃ slot ∈ x.slots, slot.name = m.1 ∧ slot.check m.2.toDraft = .ok ()
  built : (x.slots.map (·.name)).Nodup → ∀ find : String → Option Draft,
    (∀ slot ∈ x.slots, find slot.name = findMember (memberDrafts members) slot.name) →
      x.build find = .ok a

/-- A description of one field reads what its value is read as. -/
theorem Reads.single {d : Decoder α} {name : String} {j : Json} {absence : Absence}
    (h : d.Reads j a) (hslots : x.slots = [⟨name, fun v => (d v).map fun _ => (), absence⟩])
    (hbuild : ∀ find : String → Option Draft, ∀ v, find name = some v → x.build find = d v) :
    x.Reads [(name, j)] a where
  named := by rw [hslots]; exact List.Sublist.refl _
  checked m hm := by
    obtain rfl := List.mem_singleton.1 hm
    rw [hslots]
    exact ⟨h.isExact, _, List.mem_singleton_self _, rfl, by simp [h.decoded, Except.map]⟩
  built _ find hfind := by
    have hname : find name = some j.toDraft := by
      rw [hslots] at hfind
      simpa [findMember, memberDrafts] using hfind _ (List.mem_singleton_self _)
    rw [hbuild find _ hname, h.decoded]

/-- A description of one field reads no members as what it makes of a field that is missing. -/
theorem Reads.missing {slot : Slot} (hslots : x.slots = [slot])
    (hbuild : ∀ find : String → Option Draft, find slot.name = none → x.build find = .ok a) :
    x.Reads [] a where
  named := List.nil_sublist _
  checked m hm := absurd hm List.not_mem_nil
  built _ find hfind := by
    rw [hslots] at hfind
    exact hbuild find (hfind slot (List.mem_singleton_self _))

section
variable {d : Decoder α} {j : Json} (name : String)

theorem Reads.required (h : d.Reads j a) : (Fields.required name d).Reads [(name, j)] a :=
  .single h rfl fun find v hv => by simp only [Fields.required, hv]

theorem Reads.defaulted (value : α) (h : d.Reads j a) :
    (Fields.defaulted name d value).Reads [(name, j)] a :=
  .single h rfl fun find v hv => by simp only [Fields.defaulted, hv]

theorem Reads.defaulted_missing (d : Decoder α) (value : α) :
    (Fields.defaulted name d value).Reads [] value :=
  .missing rfl fun find hnone => by simp only [Fields.defaulted, hnone]

theorem Reads.optional {value : Option α} (h : d.option.Reads j value) :
    (Fields.optional name d).Reads [(name, j)] value :=
  .single h rfl fun find v hv => by simp only [Fields.optional, hv]

theorem Reads.optional_missing (d : Decoder α) : (Fields.optional name d).Reads [] none :=
  .missing rfl fun find hnone => by simp only [Fields.optional, hnone]

end

theorem Reads.map (f : α → β) (h : x.Reads members a) : (f <$> x).Reads members (f a) where
  named := h.named
  checked := h.checked
  built hn find hfind := build_map_eq_ok.2 ⟨a, h.built hn find hfind, rfl⟩

theorem Reads.seq {f : Fields (α → β)} {g : α → β} (hf : f.Reads ms g) (hx : x.Reads ns a) :
    (f <*> x).Reads (ms ++ ns) (g a) where
  named := by
    simpa only [slots_seq, List.map_append] using hf.named.append hx.named
  checked m hm := by
    rcases List.mem_append.1 hm with hm | hm
    · obtain ⟨hexact, slot, hslot, hcheck⟩ := hf.checked m hm
      exact ⟨hexact, slot, List.mem_append_left _ hslot, hcheck⟩
    · obtain ⟨hexact, slot, hslot, hcheck⟩ := hx.checked m hm
      exact ⟨hexact, slot, List.mem_append_right _ hslot, hcheck⟩
  built hn find hfind := by
    rw [slots_seq, List.map_append, List.nodup_append'] at hn
    obtain ⟨hnf, hnx, hdisjoint⟩ := hn
    -- The members of one part have no names of the other, so each part finds its own.
    refine build_seq_eq_ok.2 ⟨g, a, hf.built hnf find fun slot hslot => ?_,
      hx.built hnx find fun slot hslot => ?_, rfl⟩
    · have hother : slot.name ∉ ns.map (·.1) := fun h =>
        hdisjoint (List.mem_map_of_mem hslot) (hx.named.subset h)
      rw [hfind slot (List.mem_append_left _ hslot), findMember_append, findMember_eq_none hother,
        Option.or_none]
    · have hother : slot.name ∉ ms.map (·.1) := fun h =>
        hdisjoint (hf.named.subset h) (List.mem_map_of_mem hslot)
      rw [hfind slot (List.mem_append_right _ hslot), findMember_append, findMember_eq_none hother,
        Option.none_or]

/-- **A record is read from the members that its fields are read from.** -/
theorem Reads.record (strict : Bool) (h : x.Reads members a)
    (hn : (x.slots.map (·.name)).Nodup) :
    (Decoder.record strict x).Reads (.object members) a := by
  have hnames : (members.map (·.1)).Nodup := h.named.nodup hn
  refine ⟨?_, ?_⟩
  · simp only [isExact]
    exact membersExact_iff.2 fun m hm => (h.checked m hm).1
  · have hcheck : checkMembers x.slots strict [] (memberDrafts members) = .ok () := by
      refine checkMembers_memberDrafts hnames (fun m _ => List.not_mem_nil) fun m hm => ?_
      obtain ⟨-, slot, hslot, hname, hok⟩ := h.checked m hm
      exact ⟨slot, hname ▸ find?_of_nodup hn hslot, hok⟩
    exact Decoder.record_object_eq_ok.2 ⟨hcheck, rfl, h.built hn _ fun _ _ => rfl⟩

end Fields
end Moderation.Json

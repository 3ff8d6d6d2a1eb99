import Moderation.Proofs.Json.Written
/-!
# What the fields of a record ask for

What a record is built from is what an object has under the names of its fields
(`findMember_of_checkMembers`).  A description of a record is **lawful** (`Fields.Lawful`) if it
builds a record exactly where each field can have what is found for it.  All that are put together
from fields are, and so it is its members alone that decide whether an object is read as a record
(`Fields.Lawful.takes_iff`).
-/

namespace Moderation.Json

/-! ## What decoders read off values -/

theorem map_eq_ok {α β : Type} {r : Except Refusal α} {f : α → β} {b : β} :
    r.map f = .ok b ↔ ∃ a, r = .ok a ∧ b = f a := by
  cases r <;> simp [Except.map, eq_comm]

theorem mapM_eq_ok_iff {α β : Type} {f : α → Except Refusal β} {as : List α} {bs : List β} :
    as.mapM f = .ok bs ↔ List.Forall₂ (fun a b => f a = .ok b) as bs := by
  induction as generalizing bs with
  | nil => cases bs <;> simp [pure, Except.pure]
  | cons a as ih =>
    rw [List.mapM_cons, List.forall₂_cons_left_iff]
    cases ha : f a with
    | error e => simp [bind, Except.bind]
    | ok b =>
      cases has : as.mapM f with
      | error e => simp [bind, Except.bind, ← ih, has]
      | ok cs => simp [bind, Except.bind, pure, Except.pure, ← ih, has, eq_comm]

namespace Decoder

variable {α : Type} {d : Decoder α} {j : Json}

/-- Whether a decoder reads anything off a value. -/
def Takes (d : Decoder α) (j : Json) : Prop := ∃ a, d j.toDraft = .ok a

theorem ofJson_eq_some_iff {a : α} : d.ofJson j = some a ↔ d j.toDraft = .ok a := by
  rw [ofJson]
  cases d j.toDraft <;> simp [Except.toOption]

theorem ofJson_eq_none_iff : d.ofJson j = none ↔ ¬d.Takes j := by
  rw [ofJson, Takes]
  cases d j.toDraft <;> simp [Except.toOption]

theorem option_toDraft (h : j ≠ .null) : d.option j.toDraft = (d j.toDraft).map some := by
  cases j with
  | null => exact absurd rfl h
  | _ => rfl

theorem list_toDraft (items : List Json) :
    d.list (Json.array items).toDraft = items.mapM fun j => d j.toDraft := by
  have hitems : itemDrafts items = items.map toDraft := by
    induction items with
    | nil => rfl
    | cons j rest ih => rw [itemDrafts, ih, List.map_cons]
  simp only [toDraft, list, if_true, hitems, List.mapM_map]
  exact bind_pure (items.mapM fun j => d j.toDraft)

theorem takes_list {items : List Json} :
    d.list.Takes (.array items) ↔ ∀ j ∈ items, d.Takes j := by
  simp only [Takes, list_toDraft, mapM_eq_ok_iff]
  induction items with
  | nil => simp
  | cons j items ih =>
    rw [List.forall_mem_cons, ← ih]
    constructor
    · rintro ⟨as, has⟩
      obtain ⟨a, bs, ha, hbs, rfl⟩ := List.forall₂_cons_left_iff.1 has
      exact ⟨⟨a, ha⟩, ⟨bs, hbs⟩⟩
    · rintro ⟨⟨a, ha⟩, ⟨bs, hbs⟩⟩
      exact ⟨a :: bs, .cons ha hbs⟩

end Decoder

/-! ## Finding members -/

section Finding

variable {members : List (String × Json)} {name : String} {j : Json}

theorem mem_of_get? (h : (Json.object members).get? name = some j) : (name, j) ∈ members := by
  obtain ⟨m, hm, rfl⟩ := Option.map_eq_some_iff.1 h
  have hname : m.1 = name := by simpa using List.find?_some hm
  exact hname ▸ List.mem_reverse.1 (List.mem_of_find?_eq_some hm)

theorem get?_eq_none_iff : (Json.object members).get? name = none ↔ name ∉ members.map (·.1) := by
  simp only [get?, Option.map_eq_none_iff, List.find?_eq_none, List.mem_reverse,
    decide_eq_true_eq, List.mem_map, not_exists, not_and]

/-- Where names differ, each member is the one of its name. -/
theorem get?_of_mem (hn : (members.map (·.1)).Nodup) (hm : (name, j) ∈ members) :
    (Json.object members).get? name = some j := by
  cases hget : (Json.object members).get? name with
  | none => exact absurd (List.mem_map_of_mem hm) (get?_eq_none_iff.1 hget)
  | some k =>
    have hsame : (name, k) = (name, j) :=
      List.inj_on_of_nodup_map hn (mem_of_get? hget) hm rfl
    rw [(Prod.mk.inj hsame).2]

/-- An object that passes the checks has one value at most under the name of a field. -/
theorem findMember_of_checkMembers {slots : List Slot} {strict : Bool}
    (hc : checkMembers slots strict [] (memberDrafts members) = .ok ())
    (hslot : name ∈ slots.map (·.name)) :
    findMember (memberDrafts members) name = ((Json.object members).get? name).map toDraft := by
  cases hfind : findMember (memberDrafts members) name with
  | none =>
    have hnone : (Json.object members).get? name = none := by
      rw [get?_eq_none_iff]
      intro hmem
      obtain ⟨m, hm, rfl⟩ := List.mem_map.1 hmem
      rw [findMember, memberDrafts_eq_map, Option.map_eq_none_iff, List.find?_eq_none] at hfind
      exact hfind _ (List.mem_map_of_mem hm) (by simp)
    rw [hnone, Option.map_none]
  | some d =>
    obtain ⟨m, hm, rfl⟩ := Option.map_eq_some_iff.1 hfind
    rw [memberDrafts_eq_map] at hm
    obtain ⟨p, hp, rfl⟩ := List.mem_map.1 (List.mem_of_find?_eq_some hm)
    obtain ⟨k, hk, hget⟩ := get?_of_checkMembers hc
      (memberValues_memberDrafts members (Nat.le_max_left _ p.2.depth)) hslot hfind
    rw [value_toDraft p.2 (Nat.le_max_right _ p.2.depth)] at hk
    rw [hget, Option.map_some, Except.ok.inj hk]

end Finding

/-! ## Lawful descriptions -/

/-- Whether what an object has under the name of a field can be there. -/
def Slot.Admits (slot : Slot) : Option Draft → Prop
  | some v => slot.check v = .ok ()
  | none => slot.absence ≠ .required

namespace Fields

variable {α β : Type}

/-- A description that builds a record exactly where each of its fields can have what is found. -/
def Lawful (x : Fields α) : Prop :=
  ∀ find, (∃ a, x.build find = .ok a) ↔ ∀ slot ∈ x.slots, slot.Admits (find slot.name)

theorem build_defaulted_eq_ok {find : String → Option Draft} {name : String} {d : Decoder α}
    {value a : α} :
    (defaulted name d value).build find = .ok a ↔
      (∃ v, find name = some v ∧ d v = .ok a) ∨ (find name = none ∧ a = value) := by
  cases hv : find name <;> simp [defaulted, hv, eq_comm]

theorem lawful_required (name : String) (d : Decoder α) : (required name d).Lawful := by
  intro find
  cases hv : find name <;> simp [required, hv, Slot.Admits, map_eq_ok]

theorem lawful_defaulted (name : String) (d : Decoder α) (value : α) :
    (defaulted name d value).Lawful := by
  intro find
  cases hv : find name <;> simp [defaulted, hv, Slot.Admits, map_eq_ok]

theorem lawful_optional (name : String) (d : Decoder α) : (optional name d).Lawful := by
  intro find
  cases hv : find name <;> simp [optional, hv, Slot.Admits, map_eq_ok]

theorem Lawful.map (f : α → β) {x : Fields α} (hx : x.Lawful) : (f <$> x).Lawful := by
  intro find
  refine Iff.trans ?_ (hx find)
  constructor
  · rintro ⟨b, hb⟩
    obtain ⟨a, ha, -⟩ := build_map_eq_ok.1 hb
    exact ⟨a, ha⟩
  · rintro ⟨a, ha⟩
    exact ⟨f a, build_map_eq_ok.2 ⟨a, ha, rfl⟩⟩

theorem Lawful.seq {f : Fields (α → β)} {x : Fields α} (hf : f.Lawful) (hx : x.Lawful) :
    (f <*> x).Lawful := by
  intro find
  rw [slots_seq, List.forall_mem_append, ← hf find, ← hx find]
  constructor
  · rintro ⟨b, hb⟩
    obtain ⟨g, a, hg, ha, -⟩ := build_seq_eq_ok.1 hb
    exact ⟨⟨g, hg⟩, ⟨a, ha⟩⟩
  · rintro ⟨⟨g, hg⟩, ⟨a, ha⟩⟩
    exact ⟨g a, build_seq_eq_ok.2 ⟨g, a, hg, ha, rfl⟩⟩

/-- **An object whose members are fields is read as a record exactly if each field can have what the
object has under its name.** -/
theorem Lawful.takes_iff {x : Fields α} (hx : x.Lawful) (hslots : (x.slots.map (·.name)).Nodup)
    {strict : Bool} {members : List (String × Json)} (hn : (members.map (·.1)).Nodup)
    (hknown : ∀ m ∈ members, m.1 ∈ x.slots.map (·.name)) :
    (Decoder.record strict x).Takes (.object members) ↔
      ∀ slot ∈ x.slots, slot.Admits (((Json.object members).get? slot.name).map toDraft) := by
  have hbuilt (hc : checkMembers x.slots strict [] (memberDrafts members) = .ok ()) :
      (∃ a, x.build (findMember (memberDrafts members)) = .ok a) ↔
        ∀ slot ∈ x.slots, slot.Admits (((Json.object members).get? slot.name).map toDraft) := by
    refine (hx _).trans (forall₂_congr fun slot hslot => ?_)
    rw [findMember_of_checkMembers hc (List.mem_map_of_mem hslot)]
  constructor
  · rintro ⟨a, ha⟩
    obtain ⟨hc, -, hb⟩ := Decoder.record_object_eq_ok.1 ha
    exact (hbuilt hc).1 ⟨a, hb⟩
  · intro hadmits
    have hc : checkMembers x.slots strict [] (memberDrafts members) = .ok () := by
      refine checkMembers_memberDrafts hn (fun m _ => List.not_mem_nil) fun m hm => ?_
      obtain ⟨slot, hslot, hname⟩ := List.mem_map.1 (hknown m hm)
      have hadmit := hadmits slot hslot
      rw [hname, get?_of_mem hn hm] at hadmit
      exact ⟨slot, hname ▸ find?_of_nodup hslots hslot, hadmit⟩
    obtain ⟨a, ha⟩ := (hbuilt hc).2 hadmits
    exact ⟨a, Decoder.record_object_eq_ok.2 ⟨hc, rfl, ha⟩⟩

end Fields
end Moderation.Json

import Mathlib.Data.List.Perm.Subperm
import Moderation.Proofs.Json.Schema
import Moderation.Yaml.Document
/-!
# Names in what YAML texts stand for

The keys of a mapping are different values, but two of them may have one name as members of an
object: the number 1 and the text "1" do.  So what can be said of the names in what a text stands
for is that they come from different keys (`Yaml.keyed_of_value?`).
-/

namespace Moderation.Yaml
open Json

/-! ## Keys of one mapping -/

section

variable {α : Type} [DecidableEq α]

theorem nodup_eraseDups (as : List α) : as.eraseDups.Nodup := by
  match as with
  | [] => exact List.nodup_nil
  | a :: as =>
    rw [List.eraseDups_cons, List.nodup_cons]
    refine ⟨fun ha => ?_, nodup_eraseDups _⟩
    have hkept := List.mem_eraseDups.1 ha
    simp at hkept
termination_by as.length
decreasing_by exact Nat.lt_succ_of_le (List.length_filter_le _ _)

/-- Where nothing is erased, nothing stands twice. -/
theorem nodup_of_eraseDups {as : List α} (h : as.eraseDups.length = as.length) : as.Nodup := by
  have hsub : as.eraseDups.Subperm as :=
    List.subperm_of_subset (nodup_eraseDups as) fun _ ha => List.mem_eraseDups.1 ha
  exact (hsub.perm_of_length_le (Nat.le_of_eq h.symm)).nodup_iff.1 (nodup_eraseDups as)

end

/-- Whether a name is none that keys have but for texts. -/
def isTextual (name : String) : Bool :=
  name ≠ "true" && name ≠ "false" && name.toList.all fun c => !c.isDigit && c ≠ '-' && c ≠ '.'

theorem eq_string_of_isTextual {key : MemberKey} (h : isTextual key.name = true) :
    key = .string key.name := by
  simp only [isTextual, Bool.and_eq_true, decide_eq_true_eq, List.all_eq_true] at h
  obtain ⟨⟨htrue, hfalse⟩, hchars⟩ := h
  cases key with
  | bool b =>
    cases b with
    | false => exact absurd rfl hfalse
    | true => exact absurd rfl htrue
  | int n =>
    obtain ⟨c, cs, hc, hstart⟩ := intChars_eq_cons n
    have hmem : c ∈ (MemberKey.int n).name.toList := by
      simp [MemberKey.name, render, chars, hc]
    rcases hstart with rfl | hdigit
    · exact absurd (hchars _ hmem) (by decide)
    · have hc := hchars c hmem
      simp [hdigit] at hc
  | float x =>
    have hmem : '.' ∈ (MemberKey.float x).name.toList := by
      simp only [MemberKey.name, render, chars, String.toList_ofList, Double.chars]
      split <;> simp
    exact absurd (hchars _ hmem) (by decide)
  | string s => rfl

/-- Names that come from different keys. -/
def Keyed (names : List String) : Prop :=
  ∃ keys : List MemberKey, keys.Nodup ∧ names = keys.map MemberKey.name

theorem Keyed.nodup {names : List String} (h : Keyed names)
    (htext : ∀ name ∈ names, isTextual name = true) : names.Nodup := by
  obtain ⟨keys, hkeys, rfl⟩ := h
  refine hkeys.map_on fun a ha b hb hname => ?_
  rw [eq_string_of_isTextual (htext _ (List.mem_map_of_mem ha)),
    eq_string_of_isTextual (htext _ (List.mem_map_of_mem hb)), hname]

theorem keyed_singleton (name : String) : Keyed [name] :=
  ⟨[.string name], List.nodup_singleton _, rfl⟩

theorem length_of_mapM {α β : Type} {f : α → Option β} {as : List α} {bs : List β}
    (h : as.mapM f = some bs) : bs.length = as.length := by
  induction as generalizing bs with
  | nil => simp_all
  | cons a as ih =>
    simp only [List.mapM_cons, Option.bind_eq_bind, Option.bind_eq_some_iff] at h
    obtain ⟨b, -, cs, hcs, h⟩ := h
    rw [← Option.some.inj h, List.length_cons, List.length_cons, ih hcs]

/-- The members of an object have the values of the entries, and names that come from their keys. -/
theorem keyed_of_membersOf? {entries : List (Json × Json)} {members : List (String × Json)}
    (h : membersOf? entries = some members) :
    Keyed (members.map (·.1)) ∧ ∀ m ∈ members, ∃ e ∈ entries, e.2 = m.2 := by
  obtain ⟨keys, hkeys, h⟩ := Option.bind_eq_some_iff.1 h
  split at h
  · next hdups =>
    obtain rfl := Option.some.inj h
    have hlength : keys.length = entries.length := length_of_mapM hkeys
    refine ⟨⟨keys, nodup_of_eraseDups hdups, ?_⟩, fun m hm => ?_⟩
    · exact List.map_fst_zip (by simp [hlength])
    · obtain ⟨e, he, heq⟩ := List.mem_map.1 (List.of_mem_zip hm).2
      exact ⟨e, he, heq⟩
  · cases h

/-! ## Scalars -/

theorem eachObject_underTag {tag : Option String} {j : Json} (h : j.EachObject Keyed) :
    (underTag tag j).EachObject Keyed := by
  unfold underTag
  split
  · exact .object (keyed_singleton _) fun m hm => by rwa [List.mem_singleton.1 hm]
  · exact h

theorem eachObject_real? {s : String} {j : Json} (h : real? s = some j) : j.EachObject Keyed := by
  unfold real? at h
  split at h
  · obtain rfl := Option.some.inj h
    exact .null
  · obtain ⟨x, -, rfl⟩ := Option.map_eq_some_iff.1 h
    exact .float x

theorem eachObject_untaggedScalar? {plain : Bool} {s : String} {j : Json}
    (h : untaggedScalar? plain s = some j) : j.EachObject Keyed := by
  unfold untaggedScalar? at h
  split at h
  · unfold plainValue? at h
    split at h
    · obtain rfl := Option.some.inj h
      exact .null
    split at h
    · obtain rfl := Option.some.inj h
      exact .bool _
    · next v hv =>
      obtain ⟨n, -, hn⟩ := Option.bind_eq_some_iff.1 hv
      unfold wordOr? at hn
      split at hn
      · rw [← Option.some.inj hn, Option.some.injEq] at h
        exact h ▸ .int n
      split at hn
      · rw [← Option.some.inj hn] at h
        cases h
      · cases hn
    · obtain rfl := Option.some.inj h
      exact .string s
    · obtain rfl := Option.some.inj h
      cases hreal : real? s with
      | none => exact .string s
      | some j => exact eachObject_real? hreal
  · obtain rfl := Option.some.inj h
    exact .string s

theorem eachObject_taggedScalar? {tag s : String} {j : Json} (h : taggedScalar? tag s = some j) :
    j.EachObject Keyed := by
  unfold taggedScalar? at h
  split at h
  · obtain ⟨b, -, rfl⟩ := Option.map_eq_some_iff.1 h
    exact .bool b
  split at h
  · obtain ⟨n, -, rfl⟩ := Option.map_eq_some_iff.1 h
    exact .int n
  split at h
  · exact eachObject_real? h
  split at h
  · split at h
    · obtain rfl := Option.some.inj h
      exact .null
    · cases h
  · obtain rfl := Option.some.inj h
    exact .string s

theorem eachObject_scalarValue? {p : Properties} {plain : Bool} {s : String} {j : Json}
    (h : scalarValue? p plain s = some j) : j.EachObject Keyed := by
  unfold scalarValue? at h
  split at h
  · obtain ⟨i, hi, rfl⟩ := Option.map_eq_some_iff.1 h
    exact eachObject_underTag (eachObject_untaggedScalar? hi)
  · exact eachObject_taggedScalar? h
  · exact eachObject_untaggedScalar? h

/-! ## Nodes -/

section

variable {α β : Type} {n : Nat}

theorem bind_eq_some_iff {x : Budget α} {f : α → Budget β} {r : β × Nat} :
    (x >>= f) n = some r ↔ ∃ a m, x n = some (a, m) ∧ f a m = some r := by
  simp [bind, StateT.bind, Option.bind_eq_some_iff]

theorem pure_eq_some_iff {a : α} {r : α × Nat} : (pure a : Budget α) n = some r ↔ r = (a, n) := by
  change some (a, n) = some r ↔ r = (a, n)
  rw [Option.some.injEq, eq_comm]

theorem lift_eq_some_iff {x : Option α} {r : α × Nat} :
    (liftM x : Budget α) n = some r ↔ ∃ a, x = some a ∧ r = (a, n) := by
  cases x <;> simp [liftM, monadLift, MonadLift.monadLift, StateT.lift, eq_comm]

theorem forall_of_mapM {f : α → Budget β} {P : β → Prop} {as : List α}
    (hf : ∀ a m b m', f a m = some (b, m') → P b) {bs : List β} {n' : Nat}
    (h : as.mapM f n = some (bs, n')) : ∀ b ∈ bs, P b := by
  induction as generalizing n n' bs with
  | nil =>
    obtain ⟨rfl, -⟩ := Prod.mk.inj (pure_eq_some_iff.1 h)
    simp
  | cons a as ih =>
    rw [List.mapM_cons, bind_eq_some_iff] at h
    obtain ⟨b, m, hb, h⟩ := h
    obtain ⟨cs, m', hcs, h⟩ := bind_eq_some_iff.1 h
    obtain ⟨rfl, -⟩ := Prod.mk.inj (pure_eq_some_iff.1 h)
    exact List.forall_mem_cons.2 ⟨hf a n b m hb, ih hcs⟩

end

theorem eachObject_nodeValue {known : Anchored} {depth : Nat} {node : Node Nat} {n n' : Nat}
    {j : Json} (h : nodeValue known depth node n = some (j, n')) : j.EachObject Keyed := by
  induction depth generalizing node n j n' with
  | zero =>
    rw [nodeValue, bind_eq_some_iff] at h
    obtain ⟨found, m, -, h⟩ := h
    split at h
    · obtain ⟨i, hi, heq⟩ := lift_eq_some_iff.1 h
      obtain rfl := (Prod.mk.inj heq).1
      exact eachObject_scalarValue? hi
    · cases h
  | succ depth ih =>
    rw [nodeValue, bind_eq_some_iff] at h
    obtain ⟨found, m, -, h⟩ := h
    split at h
    · cases h
    · obtain ⟨i, hi, heq⟩ := lift_eq_some_iff.1 h
      obtain rfl := (Prod.mk.inj heq).1
      exact eachObject_scalarValue? hi
    · obtain ⟨items, m', hitems, h⟩ := bind_eq_some_iff.1 h
      obtain rfl := (Prod.mk.inj (pure_eq_some_iff.1 h)).1
      exact eachObject_underTag (.array (forall_of_mapM (fun _ _ _ _ hi => ih hi) hitems))
    · obtain ⟨entries, m', hentries, h⟩ := bind_eq_some_iff.1 h
      obtain ⟨members, m'', hmembers, h⟩ := bind_eq_some_iff.1 h
      obtain rfl := (Prod.mk.inj (pure_eq_some_iff.1 h)).1
      obtain ⟨i, hi, heq⟩ := lift_eq_some_iff.1 hmembers
      obtain rfl := (Prod.mk.inj heq).1
      have hvalues : ∀ e ∈ entries, e.2.EachObject Keyed := by
        refine forall_of_mapM (fun e k b k' he => ?_) hentries
        obtain ⟨key, _, -, he⟩ := bind_eq_some_iff.1 he
        obtain ⟨value, _, hvalue, he⟩ := bind_eq_some_iff.1 he
        obtain rfl := (Prod.mk.inj (pure_eq_some_iff.1 he)).1
        exact ih hvalue
      obtain ⟨hkeyed, hfrom⟩ := keyed_of_membersOf? hi
      refine eachObject_underTag (.object hkeyed fun m hm => ?_)
      obtain ⟨e, he, heq⟩ := hfrom m hm
      exact heq ▸ hvalues e he

/-- **The names of the members of each object that a text stands for come from different keys.** -/
theorem eachObject_value? {s : String} {j : Json} (h : value? s = some j) :
    j.EachObject Keyed := by
  unfold value? at h
  simp only [Option.bind_eq_bind, Option.bind_eq_some_iff] at h
  obtain ⟨_, -, _, -, ⟨node, _, known⟩, -, ⟨i, _⟩, hi, h⟩ := h
  obtain rfl := Option.some.inj h
  exact eachObject_nodeValue hi

/-- What a schema accepts of what a text stands for has no two members of one name, if the names in
the schema are textual. -/
theorem distinct_of_accepts {schema : Schema} {j : Json} (hnames : schema.namesAll isTextual = true)
    (haccepts : schema.accepts j = true) (hj : j.EachObject Keyed) : j.Distinct := by
  induction hj generalizing schema with
  | null => exact .null
  | bool b => exact .bool b
  | int n => exact .int n
  | float x => exact .float x
  | string s => exact .string s
  | @array items _ ih =>
    cases schema with
    | list item =>
      obtain ⟨_, heq, hitems⟩ := Schema.list_of_accepts haccepts
      obtain rfl := Json.array.inj heq
      have hnames : item.namesAll isTextual = true := hnames
      exact .array fun i hi => ih i hi hnames (hitems i hi)
    | _ => cases haccepts
  | @object members hkeyed _ ih =>
    cases schema with
    | record required named =>
      obtain ⟨_, heq, -, hmembers⟩ := Schema.record_of_accepts haccepts
      obtain rfl := Json.object.inj heq
      refine .object (hkeyed.nodup fun name hname => ?_) fun m hm => ?_
      · obtain ⟨m, hm, rfl⟩ := List.mem_map.1 hname
        obtain ⟨schema, hlookup, -⟩ := hmembers m hm
        exact (Schema.namesAll_of_lookup hnames hlookup).1
      · obtain ⟨schema, hlookup, haccepts⟩ := hmembers m hm
        exact ih m hm (Schema.namesAll_of_lookup hnames hlookup).2 haccepts
    | _ => cases haccepts

end Moderation.Yaml

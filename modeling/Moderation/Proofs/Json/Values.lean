import Moderation.Json.Canonical
import Moderation.Proofs.Json.Reading
/-!
# Values read back

A value that nests no deeper than the limit reads back from its text as a value (`parse?_render`),
so no two such values have one text (`render_injective`), and the text of a value is one line
(`feed_notMem_chars`).  The canonical text of an object says which members it has, though not in
which order they were given (`perm_of_canonical_eq`).
-/

namespace Moderation.Json

mutual

/-- How deep the containers of a value nest. -/
def depth : Json → Nat
  | .array items => itemsDepth items + 1
  | .object members => membersDepth members + 1
  | _ => 0

/-- How deep the deepest item of an array nests. -/
def itemsDepth : List Json → Nat
  | [] => 0
  | j :: rest => max (depth j) (itemsDepth rest)

/-- How deep the deepest member of an object nests. -/
def membersDepth : List (String × Json) → Nat
  | [] => 0
  | (_, j) :: rest => max (depth j) (membersDepth rest)

end

/-! ## Reading values -/

mutual

theorem value_toDraft (j : Json) {n : Nat} (h : j.depth ≤ n) : j.toDraft.value n = .ok j := by
  match j with
  | .null => rfl
  | .bool b => rfl
  | .int i => rfl
  | .float x => rfl
  | .string s => rfl
  | .array items =>
    simp only [depth] at h
    have hitems := itemValues_itemDrafts items (n := n - 1) (by omega)
    simp only [toDraft, Draft.value, hitems, if_neg (show n ≠ 0 by omega), if_true]
  | .object members =>
    simp only [depth] at h
    have hmembers := memberValues_memberDrafts members (n := n - 1) (by omega)
    simp only [toDraft, Draft.value, hmembers, if_neg (show n ≠ 0 by omega), if_true]
termination_by sizeOf j

theorem itemValues_itemDrafts (items : List Json) {n : Nat} (h : itemsDepth items ≤ n) :
    Draft.itemValues n (itemDrafts items) = .ok items := by
  match items with
  | [] => rfl
  | j :: rest =>
    simp only [itemsDepth] at h
    have hj := value_toDraft j (n := n) (by omega)
    have hrest := itemValues_itemDrafts rest (n := n) (by omega)
    simp only [itemDrafts, Draft.itemValues, hj, hrest]
termination_by sizeOf items

theorem memberValues_memberDrafts (members : List (String × Json)) {n : Nat}
    (h : membersDepth members ≤ n) :
    Draft.memberValues n (memberDrafts members) = .ok members := by
  match members with
  | [] => rfl
  | (name, j) :: rest =>
    simp only [membersDepth] at h
    have hj := value_toDraft j (n := n) (by omega)
    have hrest := memberValues_memberDrafts rest (n := n) (by omega)
    simp only [memberDrafts, Draft.memberValues, hj, hrest]
termination_by sizeOf members

end

/-- **The text of a value reads back as a value**, if it does not nest too deep. -/
theorem parse?_render {j : Json} (hj : j.isExact = true) (hd : j.depth ≤ Draft.depthLimit) :
    parse? j.render = some j := by
  simp [parse?, Document.ofText_render j hj, value_toDraft j hd]

theorem toDraft_injective {j k : Json} (h : j.toDraft = k.toDraft) : j = k := by
  have hj := value_toDraft j (Nat.le_max_left j.depth k.depth)
  rw [h, value_toDraft k (Nat.le_max_right j.depth k.depth)] at hj
  exact (Except.ok.inj hj).symm

/-- No two values have one text. -/
theorem render_injective {j k : Json} (hj : j.isExact = true) (hk : k.isExact = true)
    (h : j.render = k.render) : j = k := by
  have hread := congrArg Document.ofText h
  rw [Document.ofText_render j hj, Document.ofText_render k hk] at hread
  exact toDraft_injective (Document.mk.inj hread).1

/-! ## One line -/

theorem feed_notMem_escapedChar (c : Char) : '\n' ∉ escapedChar c := by
  have hdigit : ∀ n < 16, hexDigit n ≠ '\n' := by decide
  unfold escapedChar
  split
  · decide
  split
  · decide
  split
  · decide
  split
  · decide
  split
  · decide
  split
  · decide
  split
  · decide
  split
  · have high := hdigit (c.toNat / 16) (by omega)
    have low := hdigit (c.toNat % 16) (by omega)
    simp [Ne.symm high, Ne.symm low]
  · next hfeed _ _ _ => simpa using Ne.symm hfeed

theorem feed_notMem_stringChars (s : String) : '\n' ∉ stringChars s := by
  intro hmem
  simp only [stringChars, List.mem_cons, List.mem_append, List.not_mem_nil, or_false,
    List.mem_flatMap] at hmem
  rcases hmem with hquote | ⟨c, -, hc⟩ | hquote
  · exact absurd hquote (by decide)
  · exact feed_notMem_escapedChar c hc
  · exact absurd hquote (by decide)

theorem feed_notMem_intChars (n : Int) : '\n' ∉ intChars n := by
  have hdigits (m : Nat) : '\n' ∉ Nat.toDigits 10 m := fun hmem =>
    absurd (Nat.isDigit_of_mem_toDigits (by omega) (by omega) hmem) (by decide)
  unfold intChars
  split
  · simpa using hdigits n.natAbs
  · exact hdigits n.natAbs

mutual

/-- **The text of a value is one line.** -/
theorem feed_notMem_chars (j : Json) (hj : j.isExact = true) : '\n' ∉ j.chars := by
  match j with
  | .null => decide
  | .bool true => decide
  | .bool false => decide
  | .float x => simp [isExact] at hj
  | .int n => exact feed_notMem_intChars n
  | .string s => exact feed_notMem_stringChars s
  | .array items =>
    have hitems := feed_notMem_itemsChars items (by simpa [isExact] using hj)
    simp [chars, hitems]
  | .object members =>
    have hmembers := feed_notMem_membersChars members (by simpa [isExact] using hj)
    simp [chars, hmembers]
termination_by sizeOf j

theorem feed_notMem_itemsChars (items : List Json) (h : itemsExact items = true) :
    '\n' ∉ itemsChars items := by
  match items with
  | [] => decide
  | [j] =>
    simp only [itemsExact, Bool.and_true] at h
    exact feed_notMem_chars j h
  | j :: k :: rest =>
    rw [itemsExact, Bool.and_eq_true] at h
    have hj := feed_notMem_chars j h.1
    have hrest := feed_notMem_itemsChars (k :: rest) h.2
    rw [itemsChars_cons]
    simp [hj, hrest]
termination_by sizeOf items

theorem feed_notMem_membersChars (members : List (String × Json))
    (h : membersExact members = true) :
    '\n' ∉ membersChars members := by
  match members with
  | [] => decide
  | [(name, j)] =>
    simp only [membersExact, Bool.and_true] at h
    have hname := feed_notMem_stringChars name
    have hj := feed_notMem_chars j h
    simp [membersChars, hname, hj]
  | (name, j) :: m :: rest =>
    rw [membersExact, Bool.and_eq_true] at h
    have hname := feed_notMem_stringChars name
    have hj := feed_notMem_chars j h.1
    have hrest := feed_notMem_membersChars (m :: rest) h.2
    rw [membersChars_cons]
    simp [hname, hj, hrest]
termination_by sizeOf members

end

/-! ## Canonical text -/

theorem membersExact_iff {members : List (String × Json)} :
    membersExact members = true ↔ ∀ m ∈ members, m.2.isExact = true := by
  induction members with
  | nil => simp [membersExact]
  | cons m rest ih => simp [membersExact, ih]

mutual

theorem isExact_sorted (j : Json) (hj : j.isExact = true) : j.sorted.isExact = true := by
  match j with
  | .null => rfl
  | .bool b => rfl
  | .float x => simp [isExact] at hj
  | .int n => exact hj
  | .string s => rfl
  | .array items =>
    have hitems := itemsExact_sorted items (by simpa [isExact] using hj)
    simpa [sorted, isExact] using hitems
  | .object members =>
    have hmembers := membersExact_sorted members (by simpa [isExact] using hj)
    rw [membersExact_iff] at hmembers
    rw [sorted, isExact, membersExact_iff]
    exact fun m hm => hmembers m (List.mem_mergeSort.1 hm)
termination_by sizeOf j

theorem itemsExact_sorted (items : List Json) (h : itemsExact items = true) :
    itemsExact (sortedItems items) = true := by
  match items with
  | [] => rfl
  | j :: rest =>
    rw [itemsExact, Bool.and_eq_true] at h
    simp [sortedItems, itemsExact, isExact_sorted j h.1, itemsExact_sorted rest h.2]
termination_by sizeOf items

theorem membersExact_sorted (members : List (String × Json)) (h : membersExact members = true) :
    membersExact (sortedMembers members) = true := by
  match members with
  | [] => rfl
  | (name, j) :: rest =>
    rw [membersExact, Bool.and_eq_true] at h
    simp [sortedMembers, membersExact, isExact_sorted j h.1, membersExact_sorted rest h.2]
termination_by sizeOf members

end

/-- **Objects with one canonical text have the same members**, each in canonical form. -/
theorem perm_of_canonical_eq {ms ns : List (String × Json)}
    (hm : membersExact ms = true) (hn : membersExact ns = true)
    (h : (Json.object ms).canonical = (Json.object ns).canonical) :
    (sortedMembers ms).Perm (sortedMembers ns) := by
  have heq := render_injective (isExact_sorted (.object ms) (by simpa [isExact] using hm))
    (isExact_sorted (.object ns) (by simpa [isExact] using hn)) h
  simp only [sorted, Json.object.injEq] at heq
  have hsorted := List.mergeSort_perm (sortedMembers ms) fun a b => nameLe a.1 b.1
  rw [heq] at hsorted
  exact hsorted.symm.trans (List.mergeSort_perm _ _)

/-- Members that are texts are in canonical form. -/
theorem sortedMembers_of_texts {members : List (String × Json)}
    (h : ∀ m ∈ members, ∃ s, m.2 = .string s) : sortedMembers members = members := by
  induction members with
  | nil => rfl
  | cons m rest ih =>
    obtain ⟨name, j⟩ := m
    obtain ⟨s, rfl⟩ : ∃ s, j = .string s := h (name, j) List.mem_cons_self
    rw [sortedMembers, ih fun m hm => h m (List.mem_cons_of_mem _ hm), sorted]
    all_goals simp

/-! ## The order of names -/

theorem unitsLe_total (as bs : List Nat) : (unitsLe as bs || unitsLe bs as) = true := by
  induction as generalizing bs with
  | nil => rfl
  | cons a as ih =>
    cases bs with
    | nil => rfl
    | cons b bs => grind [unitsLe]

theorem unitsLe_trans {as bs cs : List Nat} (h : unitsLe as bs = true)
    (h' : unitsLe bs cs = true) : unitsLe as cs = true := by
  induction as generalizing bs cs with
  | nil => rfl
  | cons a as ih =>
    cases bs with
    | nil => cases h
    | cons b bs =>
      cases cs with
      | nil => cases h'
      | cons c cs => grind [unitsLe]

theorem nameLe_total (a b : String) : (nameLe a b || nameLe b a) = true :=
  unitsLe_total (utf16 a) (utf16 b)

theorem nameLe_trans {a b c : String} (h : nameLe a b = true) (h' : nameLe b c = true) :
    nameLe a c = true :=
  unitsLe_trans h h'

end Moderation.Json

import Moderation.Json.Decoder
/-!
# Reading what was written

The text of a value reads back as that value: `Document.ofText_render`.  The reader keeps the open
containers on a stack, so the statement that carries the induction is about a reader in the middle
of a text: it comes out of the text of a value with that value in its hands, the same stack, and
whatever followed (`run_chars`).

Doubles are left out.  The shortest digits of a double read back by the laws of decimal conversion,
which nothing here needs; integers have to fit into sixty-four bits, with or without a sign.
-/

namespace Moderation.Json

/-! ## Strings -/

theorem hexValue?_hexDigit : ∀ n < 16, hexValue? (hexDigit n) = some n := by decide

/-- A character that is written in a string is the next piece of it. -/
theorem piece?_escapedChar (c : Char) (rest : List Char) :
    piece? (escapedChar c ++ rest) = some (.char c, rest) := by
  unfold escapedChar
  split
  · subst c; simp [piece?, escaped?]
  split
  · subst c; simp [piece?, escaped?]
  split
  · next h => rw [← Char.ofNat_toNat c, h]; simp [piece?, escaped?]
  split
  · subst c; simp [piece?, escaped?]
  split
  · subst c; simp [piece?, escaped?]
  split
  · next h => rw [← Char.ofNat_toNat c, h]; simp [piece?, escaped?]
  split
  · subst c; simp [piece?, escaped?]
  split
  · next h =>
    have high := hexValue?_hexDigit (c.toNat / 16) (by omega)
    have low := hexValue?_hexDigit (c.toNat % 16) (by omega)
    have zero : hexValue? '0' = some 0 := rfl
    have hc : c.toNat / 16 * 16 + c.toNat % 16 = c.toNat := by omega
    have hs : c.toNat < 0xD800 := by omega
    simp [piece?, codeUnit?, high, low, zero, hc, unitPiece, hs]
  · next hq hb _ _ _ _ _ hs =>
    cases rest <;> simp [piece?, hq, hb, hs]

theorem readString_char {done cs rest : List Char} {text : Bool} {c : Char}
    (h : piece? cs = some (.char c, rest)) :
    readString done text cs = readString (c :: done) text rest := by
  rw [readString]
  split <;> simp_all

theorem readString_flatMap (done cs rest : List Char) :
    readString done true (cs.flatMap escapedChar ++ '"' :: rest) =
      some (some (String.ofList (done.reverse ++ cs)), rest) := by
  induction cs generalizing done with
  | nil =>
    have hp : piece? ('"' :: rest) = some (.close, rest) := by cases rest <;> simp [piece?]
    rw [List.flatMap_nil, List.nil_append, readString]
    split <;> simp_all
  | cons c cs ih =>
    rw [List.flatMap_cons, List.append_assoc, readString_char (piece?_escapedChar c _), ih]
    simp

/-- A string that is written reads back. -/
theorem readString_stringChars (s : String) (rest : List Char) :
    readString [] true (s.toList.flatMap escapedChar ++ '"' :: rest) = some (some s, rest) := by
  rw [readString_flatMap]
  simp

/-! ## Integers -/

/-- A text that cannot go on a numeral. -/
def EndsNumeral (cs : List Char) : Prop :=
  ∀ c ∈ cs.head?, c.isDigit = false ∧ c ≠ '.' ∧ c ≠ 'e' ∧ c ≠ 'E'

theorem digitsValue_toDigits (n : Nat) : digitsValue (Nat.toDigits 10 n) = n :=
  Nat.ofDigitChars_ten_toDigits

theorem toDigits_takeWhile (n : Nat) {rest : List Char} (h : EndsNumeral rest) :
    (Nat.toDigits 10 n ++ rest).takeWhile Char.isDigit = Nat.toDigits 10 n ∧
      (Nat.toDigits 10 n ++ rest).dropWhile Char.isDigit = rest := by
  have hd : ∀ c ∈ Nat.toDigits 10 n, c.isDigit = true := fun c hc =>
    Nat.isDigit_of_mem_toDigits (by omega) (by omega) hc
  rw [List.takeWhile_append_of_pos hd, List.dropWhile_append_of_pos hd]
  cases rest with
  | nil => simp
  | cons c cs => simp [(h c (by simp)).1]

/-- Only zero is written with a leading zero. -/
theorem toDigits_head_zero (n : Nat) (h : (Nat.toDigits 10 n).head? = some '0') : n = 0 := by
  induction n using Nat.strongRecOn with
  | ind n ih =>
    rcases Nat.lt_or_ge n 10 with hn | hn
    · rw [Nat.toDigits_of_lt_base hn] at h
      have small : ∀ m < 10, Nat.digitChar m = '0' → m = 0 := by decide
      exact small n hn (by simpa using h)
    · rw [Nat.toDigits_of_base_le (by omega) hn, List.head?_append] at h
      cases hd : (Nat.toDigits 10 (n / 10)).head? with
      | none => exact absurd (List.head?_eq_none_iff.1 hd) Nat.toDigits_ne_nil
      | some c =>
        rw [hd, Option.some_or] at h
        have := ih (n / 10) (by omega) (hd.trans h)
        omega

theorem readNumeral_digits (negative : Bool) (n : Nat) {rest : List Char} (h : EndsNumeral rest) :
    readNumeral ((if negative then ['-'] else []) ++ (Nat.toDigits 10 n ++ rest)) =
      some (⟨negative, Nat.toDigits 10 n, none, none⟩, rest) := by
  obtain ⟨ht, hd⟩ := toDigits_takeWhile n h
  have hne : (Nat.toDigits 10 n).isEmpty = false := by simp [Nat.toDigits_ne_nil]
  have hlead : ¬((Nat.toDigits 10 n).head? = some '0' ∧ (Nat.toDigits 10 n).length ≠ 1) := by
    rintro ⟨hz, hl⟩
    rw [toDigits_head_zero n hz] at hl
    exact hl rfl
  have hfraction : fraction? rest = some (none, rest) := by
    cases rest with
    | nil => rfl
    | cons c cs => have := h c (by simp); unfold fraction?; split <;> simp_all
  have hexponent : exponent? rest = some (none, rest) := by
    cases rest with
    | nil => rfl
    | cons c cs => simp [exponent?, (h c (by simp)).2.2]
  have hsign : ∀ tail, Nat.toDigits 10 n ++ rest ≠ '-' :: tail := by
    intro tail he
    cases hds : Nat.toDigits 10 n with
    | nil => exact Nat.toDigits_ne_nil hds
    | cons d ds =>
      have hdigit : d.isDigit = true :=
        Nat.isDigit_of_mem_toDigits (b := 10) (n := n) (by omega) (by omega) (by simp [hds])
      rw [hds, List.cons_append, List.cons.injEq] at he
      rw [he.1] at hdigit
      exact absurd hdigit (by decide)
  unfold readNumeral
  cases negative with
  | true => simp_all
  | false => simp_all

/-- The integers that are read as such. -/
def inWords (n : Int) : Bool := -(UInt64.size / 2 : Nat) ≤ n && n < UInt64.size

theorem draft_intChars {n : Int} (h : inWords n = true) :
    (Numeral.mk (decide (n < 0)) (Nat.toDigits 10 n.natAbs) none none).draft = .int n := by
  have size : UInt64.size = 18446744073709551616 := rfl
  simp only [inWords, size, Bool.and_eq_true, decide_eq_true_eq] at h
  simp only [Numeral.draft, size, Option.getD_none, List.append_nil, digitsValue_toDigits,
    Option.isSome_none, Bool.or_self]
  by_cases hn : n < 0
  · have hz : n ≠ 0 ∧ n.natAbs ≤ 9223372036854775808 := by omega
    have habs : -(n.natAbs : Int) = n := by omega
    have hwide :
        (decide (n.natAbs = 0) || decide (18446744073709551616 / 2 < n.natAbs)) = false := by
      rw [Bool.or_eq_false_iff, decide_eq_false_iff_not, decide_eq_false_iff_not]
      omega
    rw [if_neg Bool.false_ne_true, if_pos (decide_eq_true hn), hwide, if_neg Bool.false_ne_true,
      habs]
  · have hl : n.natAbs < 18446744073709551616 := by omega
    have habs : (n.natAbs : Int) = n := by omega
    simp [hn, hl, habs]

/-- An integer that is written reads back. -/
theorem readNumeral_intChars (n : Int) {rest : List Char} (h : EndsNumeral rest) :
    readNumeral (intChars n ++ rest) =
      some (⟨n < 0, Nat.toDigits 10 n.natAbs, none, none⟩, rest) := by
  have hr := readNumeral_digits (n < 0) n.natAbs h
  by_cases hn : n < 0
  · simpa [intChars, hn] using hr
  · simpa [intChars, hn] using hr

/-! ## Values -/

mutual

/-- Whether a value holds no double, and no integer but those that are read as such. -/
def isExact : Json → Bool
  | .int n => inWords n
  | .float _ => false
  | .array items => itemsExact items
  | .object members => membersExact members
  | _ => true

/-- Whether the items of an array are exact. -/
def itemsExact : List Json → Bool
  | [] => true
  | j :: rest => isExact j && itemsExact rest

/-- Whether the members of an object are exact. -/
def membersExact : List (String × Json) → Bool
  | [] => true
  | (_, j) :: rest => isExact j && membersExact rest

end

theorem Reader.run_of_step {r t : Reader} (h : r.step = .inr t) : r.run = t.run := by
  rw [Reader.run]
  split <;> simp_all

theorem Reader.run_of_done {r : Reader} {d : Document} (h : r.step = .inl d) : r.run = d := by
  rw [Reader.run]
  split <;> simp_all

theorem skipSpace_cons {c : Char} (h : isSpace c = false) (cs : List Char) :
    skipSpace (c :: cs) = c :: cs := by
  simp [skipSpace, h]

theorem endsNumeral_cons {c : Char} (hd : c.isDigit = false) (h : c ≠ '.' ∧ c ≠ 'e' ∧ c ≠ 'E')
    (cs : List Char) :
    EndsNumeral (c :: cs) := by
  intro d hmem
  obtain rfl : c = d := by simpa using hmem
  exact ⟨hd, h⟩

theorem isSpace_of_isDigit {c : Char} (h : c.isDigit = true) : isSpace c = false := by
  have apart : [' ', '\n', '\t', '\r'].all (fun d => !d.isDigit) = true := by decide
  cases hs : isSpace c with
  | false => rfl
  | true =>
    have hmem : c ∈ [' ', '\n', '\t', '\r'] := by simpa [isSpace, or_assoc] using hs
    have hdigit := List.all_eq_true.1 apart c hmem
    rw [h] at hdigit
    cases hdigit

theorem intChars_eq_cons (n : Int) :
    ∃ c cs, intChars n = c :: cs ∧ (c = '-' ∨ c.isDigit = true) := by
  by_cases hn : n < 0
  · exact ⟨'-', Nat.toDigits 10 n.natAbs, by simp only [intChars, hn, if_true], .inl rfl⟩
  · cases hds : Nat.toDigits 10 n.natAbs with
    | nil => exact absurd hds Nat.toDigits_ne_nil
    | cons d ds =>
      refine ⟨d, ds, by simp only [intChars, hn, if_false, hds], .inr ?_⟩
      exact Nat.isDigit_of_mem_toDigits (b := 10) (n := n.natAbs) (by omega) (by omega)
        (by simp [hds])

/-- What starts a numeral starts nothing else. -/
theorem numeral_start {c : Char} (h : c = '-' ∨ c.isDigit = true) :
    isSpace c = false ∧ c ∉ ['"', '[', ']', '\x7b', '\x7d', 'n', 't', 'f'] := by
  have apart : ['"', '[', ']', '\x7b', '\x7d', 'n', 't', 'f'].all
      (fun d => d ≠ '-' && !d.isDigit) = true := by decide
  refine ⟨?_, fun hmem => ?_⟩
  · rcases h with rfl | h
    · rfl
    · exact isSpace_of_isDigit h
  · obtain ⟨hsign, hdigit⟩ : c ≠ '-' ∧ c.isDigit = false := by
      simpa using List.all_eq_true.1 apart c hmem
    rcases h with rfl | h
    · exact hsign rfl
    · rw [hdigit] at h
      exact absurd h (by decide)

/-- What a reader sees at the front of a value: no space, and no bracket that closes a container. -/
theorem chars_eq_cons (j : Json) (hj : j.isExact = true) :
    ∃ c cs, j.chars = c :: cs ∧ isSpace c = false ∧ c ≠ ']' ∧ c ≠ '\x7d' := by
  cases j with
  | null => exact ⟨_, _, rfl, rfl, by decide, by decide⟩
  | bool b => cases b <;> exact ⟨_, _, rfl, rfl, by decide, by decide⟩
  | float x => simp [isExact] at hj
  | string s => exact ⟨_, _, rfl, rfl, by decide, by decide⟩
  | array items => exact ⟨_, _, rfl, rfl, by decide, by decide⟩
  | object members => exact ⟨_, _, rfl, rfl, by decide, by decide⟩
  | int n =>
    obtain ⟨c, cs, hc, hstart⟩ := intChars_eq_cons n
    obtain ⟨hspace, hother⟩ := numeral_start hstart
    exact ⟨c, cs, hc, hspace, by simp_all, by simp_all⟩

/-- Reading a value that is no container. -/
theorem run_scalar {v : Draft} {c : Char} {cs rest : List Char} (stack : List Frame)
    (hspace : isSpace c = false)
    (harray : c ≠ '[') (hobject : c ≠ '\x7b') (h : scalar? (c :: cs) = some (v, rest)) :
    Reader.run ⟨.value, stack, c :: cs⟩ = Reader.run ⟨.after v, stack, rest⟩ := by
  apply Reader.run_of_step
  simp only [Reader.step, Reader.beginValue, skipSpace_cons hspace]
  split
  · simp_all
  · simp_all
  · simp [h, Reader.deliver]

theorem scalar?_intChars {n : Int} (hn : inWords n = true) {rest : List Char}
    (hr : EndsNumeral rest) :
    scalar? (intChars n ++ rest) = some (.int n, rest) := by
  have hread := readNumeral_intChars n hr
  obtain ⟨c, cs, hc, hstart⟩ := intChars_eq_cons n
  obtain ⟨-, hother⟩ := numeral_start hstart
  rw [hc, List.cons_append] at hread ⊢
  have hliteral : literal? (c :: (cs ++ rest)) = none := by
    unfold literal?
    split <;> simp_all
  unfold scalar?
  split
  · simp_all
  · rw [hliteral, Option.none_or, hread, Option.map_some]
    simp only [draft_intChars hn]

/-- The text that follows an item or a member cannot go on a numeral. -/
theorem endsNumeral_comma (cs : List Char) : EndsNumeral (',' :: cs) :=
  endsNumeral_cons (by decide) (by decide) cs

theorem endsNumeral_bracket (cs : List Char) : EndsNumeral (']' :: cs) :=
  endsNumeral_cons (by decide) (by decide) cs

theorem endsNumeral_brace (cs : List Char) : EndsNumeral ('\x7d' :: cs) :=
  endsNumeral_cons (by decide) (by decide) cs

theorem itemsChars_cons (j k : Json) (items : List Json) :
    itemsChars (j :: k :: items) = j.chars ++ ',' :: itemsChars (k :: items) := rfl

theorem membersChars_cons (name : String) (j : Json) (m : String × Json)
    (members : List (String × Json)) :
    membersChars ((name, j) :: m :: members) = stringChars name ++ ':' ::
      (j.chars ++ ',' :: membersChars (m :: members)) :=
  rfl

/-- A reader goes into an array that is not empty. -/
theorem run_openArray {c : Char} {cs : List Char} (stack : List Frame) (hspace : isSpace c = false)
    (hclose : c ≠ ']') :
    Reader.run ⟨.value, stack, '[' :: c :: cs⟩ =
      Reader.run ⟨.value, .array [] :: stack, c :: cs⟩ := by
  apply Reader.run_of_step
  simp only [Reader.step, Reader.beginValue,
    skipSpace_cons (show isSpace '[' = false from rfl), skipSpace_cons hspace]
  split
  · simp_all
  · rfl

/-- A reader goes into an object that is not empty. -/
theorem run_openObject (cs : List Char) (stack : List Frame) :
    Reader.run ⟨.value, stack, '\x7b' :: '"' :: cs⟩ = Reader.run ⟨.name [], stack, '"' :: cs⟩ := by
  apply Reader.run_of_step
  rfl

/-- A reader takes the name of a member. -/
theorem run_name (name : String) (done : List (Option String × Draft)) (stack : List Frame)
    (rest : List Char) :
    Reader.run ⟨.name done, stack, stringChars name ++ ':' :: rest⟩ =
      Reader.run ⟨.value, .object done (some name) :: stack, rest⟩ := by
  apply Reader.run_of_step
  have hread := readString_stringChars name (':' :: rest)
  have hspace : skipSpace (stringChars name ++ ':' :: rest) =
      '"' :: (name.toList.flatMap escapedChar ++ '"' :: ':' :: rest) := by
    simp [stringChars, skipSpace_cons, isSpace]
  simp only [Reader.step, Reader.readName, hspace, hread]
  rfl

mutual

/-- A reader comes out of the text of a value with that value. -/
theorem run_chars (j : Json) (hj : j.isExact = true) (stack : List Frame) {rest : List Char}
    (hr : EndsNumeral rest) :
    Reader.run ⟨.value, stack, j.chars ++ rest⟩ = Reader.run ⟨.after j.toDraft, stack, rest⟩ := by
  match j with
  | .null => exact run_scalar stack rfl (by decide) (by decide) rfl
  | .bool true => exact run_scalar stack rfl (by decide) (by decide) rfl
  | .bool false => exact run_scalar stack rfl (by decide) (by decide) rfl
  | .float x => simp [isExact] at hj
  | .string s =>
    apply run_scalar stack rfl (by decide) (by decide)
    simp [scalar?, List.append_assoc, readString_stringChars, toDraft]
  | .int n =>
    obtain ⟨c, cs, hc, hstart⟩ := intChars_eq_cons n
    obtain ⟨hspace, hother⟩ := numeral_start hstart
    have hscalar := scalar?_intChars (n := n) (by simpa [isExact] using hj) hr
    simp only [chars, toDraft]
    rw [hc, List.cons_append] at hscalar ⊢
    exact run_scalar stack hspace (by simp_all) (by simp_all) hscalar
  | .array [] =>
    apply Reader.run_of_step
    rfl
  | .array (j :: items) =>
    have hi : itemsExact (j :: items) = true := by simpa [isExact] using hj
    have hopen : Reader.run ⟨.value, stack, (Json.array (j :: items)).chars ++ rest⟩ =
        Reader.run ⟨.value, .array [] :: stack, itemsChars (j :: items) ++ ']' :: rest⟩ := by
      obtain ⟨c, cs, hc, hspace, hclose, -⟩ := chars_eq_cons j (by simp_all [itemsExact])
      obtain ⟨cs', hcs⟩ : ∃ cs', itemsChars (j :: items) = c :: cs' := by
        cases items with
        | nil => exact ⟨cs, hc⟩
        | cons k items => exact ⟨_, by rw [itemsChars_cons, hc, List.cons_append]⟩
      simp only [chars, List.cons_append, List.append_assoc, hcs]
      exact run_openArray stack hspace hclose
    rw [hopen, run_itemsChars j items hi]
    rfl
  | .object [] =>
    apply Reader.run_of_step
    rfl
  | .object ((name, j) :: members) =>
    have hm : membersExact ((name, j) :: members) = true := by simpa [isExact] using hj
    have hopen : Reader.run ⟨.value, stack, (Json.object ((name, j) :: members)).chars ++ rest⟩ =
        Reader.run ⟨.name [], stack, membersChars ((name, j) :: members) ++ '\x7d' :: rest⟩ := by
      obtain ⟨cs, hcs⟩ : ∃ cs, membersChars ((name, j) :: members) = '"' :: cs := by
        cases members with
        | nil => exact ⟨_, rfl⟩
        | cons m members => exact ⟨_, rfl⟩
      simp only [chars, List.cons_append, List.append_assoc, hcs]
      exact run_openObject _ stack
    rw [hopen, run_membersChars name j members hm]
    rfl
termination_by sizeOf j

/-- A reader inside an array comes out of it with the items that were still to come. -/
theorem run_itemsChars (j : Json) (items : List Json) (hj : itemsExact (j :: items) = true)
    (done : List Draft) (stack : List Frame) (rest : List Char) :
    Reader.run ⟨.value, .array done :: stack, itemsChars (j :: items) ++ ']' :: rest⟩ =
      Reader.run ⟨.after (.array (done.reverse ++ itemDrafts (j :: items)) true), stack, rest⟩ := by
  simp only [itemsExact, Bool.and_eq_true] at hj
  match _h : items with
  | [] =>
    rw [itemsChars, run_chars j hj.1 _ (endsNumeral_bracket rest)]
    apply Reader.run_of_step
    simp [Reader.step, Reader.goOn, Reader.deliver, skipSpace_cons, isSpace, itemDrafts]
  | k :: items =>
    rw [itemsChars_cons, List.append_assoc, List.cons_append,
      run_chars j hj.1 _ (endsNumeral_comma _)]
    have hcomma : Reader.run ⟨.after j.toDraft, .array done :: stack,
          ',' :: (itemsChars (k :: items) ++ ']' :: rest)⟩ =
        Reader.run ⟨.value, .array (j.toDraft :: done) :: stack,
          itemsChars (k :: items) ++ ']' :: rest⟩ := by
      apply Reader.run_of_step
      rfl
    rw [hcomma, run_itemsChars k items hj.2]
    simp [itemDrafts]
termination_by sizeOf (j :: items)

/-- A reader inside an object comes out of it with the members that were still to come. -/
theorem run_membersChars (name : String) (j : Json) (members : List (String × Json))
    (hj : membersExact ((name, j) :: members) = true) (done : List (Option String × Draft))
    (stack : List Frame) (rest : List Char) :
    Reader.run ⟨.name done, stack, membersChars ((name, j) :: members) ++ '\x7d' :: rest⟩ =
      Reader.run ⟨.after (.object (done.reverse ++ memberDrafts ((name, j) :: members)) true),
        stack, rest⟩ := by
  simp only [membersExact, Bool.and_eq_true] at hj
  match _h : members with
  | [] =>
    rw [membersChars, List.append_assoc, List.cons_append, run_name,
      run_chars j hj.1 _ (endsNumeral_brace rest)]
    apply Reader.run_of_step
    simp [Reader.step, Reader.goOn, Reader.deliver, skipSpace_cons, isSpace, memberDrafts]
  | (next, k) :: members =>
    rw [membersChars_cons, List.append_assoc, List.cons_append, List.append_assoc, List.cons_append,
      run_name,
      run_chars j hj.1 _ (endsNumeral_comma _)]
    have hcomma : Reader.run ⟨.after j.toDraft, .object done (some name) :: stack,
          ',' :: (membersChars ((next, k) :: members) ++ '\x7d' :: rest)⟩ =
        Reader.run ⟨.name ((some name, j.toDraft) :: done), stack,
          membersChars ((next, k) :: members) ++ '\x7d' :: rest⟩ := by
      apply Reader.run_of_step
      rfl
    rw [hcomma, run_membersChars next k members hj.2]
    simp [memberDrafts]
termination_by sizeOf ((name, j) :: members)

end

/-- **The text of a value reads back as the value.** -/
theorem Document.ofText_render (j : Json) (hj : j.isExact = true) :
    Document.ofText j.render = ⟨j.toDraft, false⟩ := by
  have hnil : EndsNumeral [] := by intro c hc; simp at hc
  have hrun := run_chars j hj [] hnil
  rw [List.append_nil] at hrun
  rw [Document.ofText, render, String.toList_ofList, hrun]
  exact Reader.run_of_done rfl

/-- A decoder reads the text of a value as it reads the value. -/
theorem Decoder.ofText_render {α : Type} (d : Decoder α) (j : Json) (hj : j.isExact = true) :
    d.ofText j.render = d j.toDraft := by
  unfold Decoder.ofText
  rw [Document.ofText_render j hj]
  cases hd : d j.toDraft <;> simp [hd, bind, Except.bind]

end Moderation.Json

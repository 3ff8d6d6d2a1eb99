import Mathlib.Algebra.Group.Nat.Defs
import Mathlib.Data.List.Basic
import Mathlib.Data.Option.Basic
import Moderation.Proofs.Digest.Base64
/-!
# The rule of Base64

The bits of some bytes, eight for each, are taken in groups of six, the last of which is filled up
with zeros, and each group is written as a character of the alphabet (`Spells`).  A number that is
put together from two parts has the bits of the one and then those of the other (`bits_append`), so
the digits of some bytes follow the rule (`spells_digits`); and as bits taken in groups say which
numbers the groups are (`flatMap_bits_injective`), no other text does (`spells_iff`).

The characters may be followed by padding, as much of it as completes them to groups of four, or
stand alone (`IsSpelling`).  These are the texts that are written for the bytes
(`isSpelling_iff`), and so the ones that are read.
-/

namespace Moderation.Base64

/-- The last bits of a number, the highest of them first. -/
def bits : Nat → Nat → List Bool
  | 0, _ => []
  | width + 1, n => bits width (n / 2) ++ [decide (n % 2 = 1)]

/-- The characters that stand for the numbers below sixty-four, in order. -/
def alphabet : List Char :=
  "ABCDEFGHIJKLMNOPQRSTUVWXYZabcdefghijklmnopqrstuvwxyz0123456789+/".toList

/-- A text spells some bytes if its characters stand for the bits of the bytes in groups of six,
where fewer than six zeros fill up the last group. -/
def Spells (text : List Char) (bytes : List UInt8) : Prop :=
  ∃ (values : List Nat) (fill : Nat), values.map (alphabet[·]?) = text.map some ∧ fill < 6 ∧
    values.flatMap (bits 6) = (bytes.flatMap fun b => bits 8 b.toNat) ++ List.replicate fill false

/-- A text is a spelling of some bytes if it consists of the characters that spell them, with the
padding that completes these to whole groups of four or without any. -/
def IsSpelling (s : String) (bytes : List UInt8) : Prop :=
  ∃ text, Spells text bytes ∧ (s = String.ofList text ∨
    ∃ pad < 4, 4 ∣ text.length + pad ∧ s = String.ofList (text ++ List.replicate pad '='))

/-! ## Bits in groups -/

theorem length_bits (width n : Nat) : (bits width n).length = width := by
  induction width generalizing n with
  | zero => rfl
  | succ width ih => rw [bits, List.length_append, ih]; rfl

theorem bits_zero (width : Nat) : bits width 0 = List.replicate width false := by
  induction width with
  | zero => rfl
  | succ width ih => rw [bits, ih, List.replicate_succ']; rfl

/-- A number that is put together from two parts has the bits of the one and those of the other. -/
theorem bits_append {width high low n x y : Nat} (hwidth : width = high + low)
    (hn : n = x * 2 ^ low + y) (hy : y < 2 ^ low) : bits width n = bits high x ++ bits low y := by
  subst hwidth hn
  induction low generalizing y with
  | zero =>
    have hzero : y = 0 := by omega
    simp [hzero, bits]
  | succ low ih =>
    have hdouble : x * 2 ^ (low + 1) = x * 2 ^ low * 2 := by rw [Nat.pow_succ, Nat.mul_assoc]
    have hhalf : (x * 2 ^ (low + 1) + y) / 2 = x * 2 ^ low + y / 2 := by omega
    have hlast : (x * 2 ^ (low + 1) + y) % 2 = y % 2 := by omega
    rw [← Nat.add_assoc, bits, bits, hhalf, hlast, ih (by omega), List.append_assoc]

theorem bits_injective {width n m : Nat} (hn : n < 2 ^ width) (hm : m < 2 ^ width)
    (h : bits width n = bits width m) : n = m := by
  induction width generalizing n m with
  | zero => omega
  | succ width ih =>
    rw [bits, bits] at h
    obtain ⟨hhigh, hlow⟩ := List.append_inj h (by rw [length_bits, length_bits])
    have hhalf := ih (by omega) (by omega) hhigh
    have hbit : n % 2 = 1 ↔ m % 2 = 1 := by simpa using hlow
    omega

theorem length_flatMap_bits (values : List Nat) (width : Nat) :
    (values.flatMap (bits width)).length = width * values.length := by
  induction values with
  | nil => rfl
  | cons v values ih =>
    rw [List.flatMap_cons, List.length_append, length_bits, ih, List.length_cons, Nat.mul_succ,
      Nat.add_comm]

/-- Bits in groups of six say which numbers the groups are. -/
theorem flatMap_bits_injective {values others : List Nat} (hvalues : ∀ v ∈ values, v < 64)
    (hothers : ∀ v ∈ others, v < 64) (h : values.flatMap (bits 6) = others.flatMap (bits 6)) :
    values = others := by
  induction values generalizing others with
  | nil =>
    have hlength := congrArg List.length h
    rw [length_flatMap_bits, length_flatMap_bits, List.length_nil] at hlength
    exact (List.length_eq_zero_iff.1 (by omega)).symm
  | cons v values ih =>
    cases others with
    | nil =>
      have hlength := congrArg List.length h
      rw [length_flatMap_bits, length_flatMap_bits, List.length_nil, List.length_cons] at hlength
      omega
    | cons w others =>
      obtain ⟨hv, hvalues⟩ := List.forall_mem_cons.1 hvalues
      obtain ⟨hw, hothers⟩ := List.forall_mem_cons.1 hothers
      rw [List.flatMap_cons, List.flatMap_cons] at h
      obtain ⟨hfirst, hrest⟩ := List.append_inj h (by rw [length_bits, length_bits])
      rw [bits_injective hv hw hfirst, ih hvalues hothers hrest]

/-! ## The digits of some bytes -/

section
variable (a b c : UInt8) {n y : Nat}

-- Where the first, the second and the third byte of a group are cut into digits.

theorem bits_first_byte : bits 8 a.toNat = bits 6 (a.toNat / 4) ++ bits 2 (a.toNat % 4) :=
  bits_append (by decide) (by omega) (by omega)

theorem bits_second_byte : bits 8 b.toNat = bits 4 (b.toNat / 16) ++ bits 4 (b.toNat % 16) :=
  bits_append (by decide) (by omega) (by omega)

theorem bits_third_byte : bits 8 c.toNat = bits 2 (c.toNat / 64) ++ bits 6 (c.toNat % 64) :=
  bits_append (by decide) (by omega) (by omega)

/-- The second digit of a group has the rest of the first byte. -/
theorem bits_second_digit (hn : n = a.toNat % 4 * 16 + y) (hy : y < 16) :
    bits 6 n = bits 2 (a.toNat % 4) ++ bits 4 y :=
  bits_append (by decide) (by omega) (by omega)

/-- The third digit of a group has the rest of the second byte. -/
theorem bits_third_digit (hn : n = b.toNat % 16 * 4 + y) (hy : y < 4) :
    bits 6 n = bits 4 (b.toNat % 16) ++ bits 2 y :=
  bits_append (by decide) (by omega) (by omega)

end

theorem getElem?_alphabet : ∀ n < 64, alphabet[n]? = some (digit n) := by decide

/-- **The digits of some bytes spell them.** -/
theorem spells_digits (bytes : List UInt8) : Spells (digits bytes) bytes := by
  fun_induction digits bytes with
  | case1 => exact ⟨[], 0, rfl, by decide, rfl⟩
  | case2 a =>
    have ha := a.toNat_lt
    have hx := getElem?_alphabet (a.toNat / 4) (by omega)
    have hy := getElem?_alphabet (a.toNat % 4 * 16) (by omega)
    have hlast := bits_second_digit a (n := a.toNat % 4 * 16) (y := 0) (by omega) (by decide)
    refine ⟨[a.toNat / 4, a.toNat % 4 * 16], 4, ?_, by decide, ?_⟩
    · simp only [List.map_cons, List.map_nil, hx, hy]
    · simp only [List.flatMap_cons, List.flatMap_nil, List.append_nil, List.append_assoc,
        bits_first_byte a, hlast, bits_zero]
  | case3 a b =>
    have ha := a.toNat_lt
    have hb := b.toNat_lt
    have hx := getElem?_alphabet (a.toNat / 4) (by omega)
    have hy := getElem?_alphabet (a.toNat % 4 * 16 + b.toNat / 16) (by omega)
    have hz := getElem?_alphabet (b.toNat % 16 * 4) (by omega)
    have hmiddle := bits_second_digit a (y := b.toNat / 16) rfl (by omega)
    have hlast := bits_third_digit b (n := b.toNat % 16 * 4) (y := 0) (by omega) (by decide)
    refine ⟨[a.toNat / 4, a.toNat % 4 * 16 + b.toNat / 16, b.toNat % 16 * 4], 2, ?_, by decide, ?_⟩
    · simp only [List.map_cons, List.map_nil, hx, hy, hz]
    · simp only [List.flatMap_cons, List.flatMap_nil, List.append_nil, List.append_assoc,
        bits_first_byte a, bits_second_byte b, hmiddle, hlast, bits_zero]
  | case4 a b c rest ih =>
    obtain ⟨values, fill, htext, hfill, hbits⟩ := ih
    have ha := a.toNat_lt
    have hb := b.toNat_lt
    have hc := c.toNat_lt
    have hx := getElem?_alphabet (a.toNat / 4) (by omega)
    have hy := getElem?_alphabet (a.toNat % 4 * 16 + b.toNat / 16) (by omega)
    have hz := getElem?_alphabet (b.toNat % 16 * 4 + c.toNat / 64) (by omega)
    have hw := getElem?_alphabet (c.toNat % 64) (by omega)
    have hsecond := bits_second_digit a (y := b.toNat / 16) rfl (by omega)
    have hthird := bits_third_digit b (y := c.toNat / 64) rfl (by omega)
    refine ⟨a.toNat / 4 :: (a.toNat % 4 * 16 + b.toNat / 16) ::
      (b.toNat % 16 * 4 + c.toNat / 64) :: c.toNat % 64 :: values, fill, ?_, hfill, ?_⟩
    · simp only [List.map_cons, hx, hy, hz, hw, htext]
    · simp only [List.flatMap_cons, List.append_assoc, hbits, bits_first_byte a,
        bits_second_byte b, bits_third_byte c, hsecond, hthird]

/-- **The digits of some bytes, and no other text, spell them.** -/
theorem spells_iff {text : List Char} {bytes : List UInt8} :
    Spells text bytes ↔ text = digits bytes := by
  constructor
  · rintro ⟨values, fill, htext, hfill, hbits⟩
    obtain ⟨others, fill', hdigits, hfill', hbits'⟩ := spells_digits bytes
    have hsmall {values : List Nat} {text : List Char}
        (htext : values.map (alphabet[·]?) = text.map some) : ∀ v ∈ values, v < 64 := by
      intro v hv
      obtain ⟨c, -, hc⟩ := List.mem_map.1 (htext ▸ List.mem_map_of_mem hv)
      exact (List.getElem?_eq_some_iff.1 hc.symm).1
    have hsame : fill = fill' := by
      have hlength := congrArg List.length hbits
      have hlength' := congrArg List.length hbits'
      simp only [length_flatMap_bits, List.length_append, List.length_replicate] at hlength hlength'
      omega
    have hvalues : values = others :=
      flatMap_bits_injective (hsmall htext) (hsmall hdigits) (by rw [hbits, hbits', hsame])
    rw [hvalues, hdigits] at htext
    exact (List.map_injective_iff.2 (Option.some_injective Char) htext).symm
  · rintro rfl
    exact spells_digits bytes

/-- There is one number of signs that completes some digits to whole groups. -/
theorem padding_of_dvd {count pad : Nat} (hpad : pad < 4) (h : 4 ∣ count + pad) :
    padding count = List.replicate pad '=' := by
  have hcount : (4 - count % 4) % 4 = pad := by omega
  rw [padding, hcount]

/-- **The spellings of some bytes are what is written for them**, with padding and without. -/
theorem isSpelling_iff {s : String} {bytes : List UInt8} :
    IsSpelling s bytes ↔ s = encode bytes ∨ s = String.ofList (digits bytes) := by
  constructor
  · rintro ⟨text, htext, hs⟩
    obtain rfl := spells_iff.1 htext
    rcases hs with rfl | ⟨pad, hpad, hgroups, rfl⟩
    · exact .inr rfl
    · rw [encode, encodeChars, padding_of_dvd hpad hgroups]
      exact .inl rfl
  · rintro (rfl | rfl)
    · exact ⟨_, spells_digits bytes, .inr ⟨_, Nat.mod_lt _ (by decide), by omega, rfl⟩⟩
    · exact ⟨_, spells_digits bytes, .inl rfl⟩

end Moderation.Base64

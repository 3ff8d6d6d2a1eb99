import Mathlib.Tactic.SplitIfs
import Moderation.Digest.Base64
import Moderation.Text.Blank
/-!
# Base64 reads back

The padded spelling of some bytes reads back as those bytes (`decode?_encode`), so no two sequences
of bytes have one spelling (`encode_injective`).  The digits without their padding read back too,
if a text is taken for either spelling (`decode_digits`).

Nothing else is read: digits that are read are those of the bytes that come out
(`digits_of_ofDigits?`), as the bits that a last group leaves over have to be zero.  So a text that
is taken for either spelling is read as some bytes just if it is one of the two (`decode_iff`).
-/

namespace Moderation.Base64

theorem value?_digit : ∀ n < 64, value? (digit n) = some n := by decide

theorem digit_ne_padding : ∀ n < 64, digit n ≠ '=' := by decide

theorem digit_not_blank : ∀ n < 64, Text.isBlank (digit n) = false := by decide

theorem digit_of_value? {c : Char} {n : Nat} (h : value? c = some n) : n < 64 ∧ digit n = c := by
  have hchar (m : Nat) (hm : m = c.toNat) : Char.ofNat m = c := by rw [hm, Char.ofNat_toNat]
  have hbound (d : Char) : (d ≤ c ↔ d.toNat ≤ c.toNat) ∧ (c ≤ d ↔ c.toNat ≤ d.toNat) :=
    ⟨Iff.rfl, Iff.rfl⟩
  simp only [value?, Bool.and_eq_true, decide_eq_true_eq, hbound, Char.reduceToNat] at h
  split_ifs at h with hupper hlower hdecimal hplus hslash <;> cases h
  · refine ⟨by omega, ?_⟩
    rw [digit, if_pos (by omega)]
    exact hchar _ (by omega)
  · refine ⟨by omega, ?_⟩
    rw [digit, if_neg (by omega), if_pos (by omega)]
    exact hchar _ (by omega)
  · refine ⟨by omega, ?_⟩
    rw [digit, if_neg (by omega), if_neg (by omega), if_pos (by omega)]
    exact hchar _ (by omega)
  · exact ⟨by omega, hplus ▸ rfl⟩
  · exact ⟨by omega, hslash ▸ rfl⟩

/-- A byte is put together from the parts that two of its digits hold. -/
theorem ofNat_eq {n : Nat} {b : UInt8} (h : n = b.toNat) : UInt8.ofNat n = b := by
  rw [h, UInt8.ofNat_toNat]

theorem ofDigits?_digits (bytes : List UInt8) : ofDigits? (digits bytes) = some bytes := by
  fun_induction digits bytes with
  | case1 => rfl
  | case2 a =>
    have ha := a.toNat_lt
    have hx := value?_digit (a.toNat / 4) (by omega)
    have hy := value?_digit (a.toNat % 4 * 16) (by omega)
    have first : UInt8.ofNat (a.toNat / 4 * 4 + a.toNat % 4 * 16 / 16) = a := ofNat_eq (by omega)
    have spare : a.toNat % 4 * 16 % 16 = 0 := by omega
    simp only [ofDigits?, hx, hy, Option.bind_eq_bind, Option.bind_some, spare, if_true, first]
  | case3 a b =>
    have ha := a.toNat_lt
    have hb := b.toNat_lt
    have hx := value?_digit (a.toNat / 4) (by omega)
    have hy := value?_digit (a.toNat % 4 * 16 + b.toNat / 16) (by omega)
    have hz := value?_digit (b.toNat % 16 * 4) (by omega)
    have first : UInt8.ofNat (a.toNat / 4 * 4 + (a.toNat % 4 * 16 + b.toNat / 16) / 16) = a :=
      ofNat_eq (by omega)
    have second :
        UInt8.ofNat ((a.toNat % 4 * 16 + b.toNat / 16) % 16 * 16 + b.toNat % 16 * 4 / 4) = b :=
      ofNat_eq (by omega)
    have spare : b.toNat % 16 * 4 % 4 = 0 := by omega
    simp only [ofDigits?, hx, hy, hz, Option.bind_eq_bind, Option.bind_some, spare, if_true, first,
      second]
  | case4 a b c rest ih =>
    have ha := a.toNat_lt
    have hb := b.toNat_lt
    have hc := c.toNat_lt
    have hx := value?_digit (a.toNat / 4) (by omega)
    have hy := value?_digit (a.toNat % 4 * 16 + b.toNat / 16) (by omega)
    have hz := value?_digit (b.toNat % 16 * 4 + c.toNat / 64) (by omega)
    have hw := value?_digit (c.toNat % 64) (by omega)
    have first : UInt8.ofNat (a.toNat / 4 * 4 + (a.toNat % 4 * 16 + b.toNat / 16) / 16) = a :=
      ofNat_eq (by omega)
    have second : UInt8.ofNat ((a.toNat % 4 * 16 + b.toNat / 16) % 16 * 16 +
        (b.toNat % 16 * 4 + c.toNat / 64) / 4) = b :=
      ofNat_eq (by omega)
    have third : UInt8.ofNat ((b.toNat % 16 * 4 + c.toNat / 64) % 4 * 64 + c.toNat % 64) = c :=
      ofNat_eq (by omega)
    simp only [ofDigits?, hx, hy, hz, hw, ih, Option.bind_eq_bind, Option.bind_some, first, second,
      third]

/-- **Digits that are read are those of the bytes that come out.** -/
theorem digits_of_ofDigits? {text : List Char} {bytes : List UInt8}
    (h : ofDigits? text = some bytes) : digits bytes = text := by
  have hbyte {n : Nat} (hn : n < 256) : (UInt8.ofNat n).toNat = n := UInt8.toNat_ofNat_of_lt' hn
  fun_induction ofDigits? text generalizing bytes with
  | case1 =>
    cases h
    rfl
  | case2 => cases h
  | case3 p q =>
    simp only [Option.bind_eq_bind, Option.bind_eq_some_iff] at h
    obtain ⟨x, hx, y, hy, h⟩ := h
    obtain ⟨hxlt, rfl⟩ := digit_of_value? hx
    obtain ⟨hylt, rfl⟩ := digit_of_value? hy
    split at h <;> cases h
    have hfirst : (x * 4 + y / 16) / 4 = x := by omega
    have hsecond : (x * 4 + y / 16) % 4 * 16 = y := by omega
    rw [digits, hbyte (by omega), hfirst, hsecond]
  | case4 p q r =>
    simp only [Option.bind_eq_bind, Option.bind_eq_some_iff] at h
    obtain ⟨x, hx, y, hy, z, hz, h⟩ := h
    obtain ⟨hxlt, rfl⟩ := digit_of_value? hx
    obtain ⟨hylt, rfl⟩ := digit_of_value? hy
    obtain ⟨hzlt, rfl⟩ := digit_of_value? hz
    split at h <;> cases h
    have hfirst : (x * 4 + y / 16) / 4 = x := by omega
    have hsecond : (x * 4 + y / 16) % 4 * 16 + (y % 16 * 16 + z / 4) / 16 = y := by omega
    have hthird : (y % 16 * 16 + z / 4) % 16 * 4 = z := by omega
    rw [digits, hbyte (by omega), hbyte (by omega), hfirst, hsecond, hthird]
  | case5 p q r s rest ih =>
    simp only [Option.bind_eq_bind, Option.bind_eq_some_iff, Option.some.injEq] at h
    obtain ⟨x, hx, y, hy, z, hz, w, hw, more, hmore, rfl⟩ := h
    obtain ⟨hxlt, rfl⟩ := digit_of_value? hx
    obtain ⟨hylt, rfl⟩ := digit_of_value? hy
    obtain ⟨hzlt, rfl⟩ := digit_of_value? hz
    obtain ⟨hwlt, rfl⟩ := digit_of_value? hw
    have hfirst : (x * 4 + y / 16) / 4 = x := by omega
    have hsecond : (x * 4 + y / 16) % 4 * 16 + (y % 16 * 16 + z / 4) / 16 = y := by omega
    have hthird : (y % 16 * 16 + z / 4) % 16 * 4 + (z % 4 * 64 + w) / 64 = z := by omega
    have hfourth : (z % 4 * 64 + w) % 64 = w := by omega
    rw [digits, hbyte (by omega), hbyte (by omega), hbyte (by omega), hfirst, hsecond, hthird,
      hfourth, ih hmore]

theorem length_digits (bytes : List UInt8) :
    (digits bytes).length = (bytes.length * 4 + 2) / 3 := by
  fun_induction digits bytes with
  | case1 | case2 | case3 => simp
  | case4 a b c rest ih =>
    simp only [List.length_cons, ih]
    omega

theorem exists_digit_of_mem {bytes : List UInt8} {c : Char} (hc : c ∈ digits bytes) :
    ∃ n < 64, c = digit n := by
  fun_induction digits bytes with
  | case1 => cases hc
  | case2 a =>
    have ha := a.toNat_lt
    simp only [List.mem_cons, List.not_mem_nil, or_false] at hc
    rcases hc with rfl | rfl <;> exact ⟨_, by omega, rfl⟩
  | case3 a b =>
    have ha := a.toNat_lt
    have hb := b.toNat_lt
    simp only [List.mem_cons, List.not_mem_nil, or_false] at hc
    rcases hc with rfl | rfl | rfl <;> exact ⟨_, by omega, rfl⟩
  | case4 a b c' rest ih =>
    have ha := a.toNat_lt
    have hb := b.toNat_lt
    have hc' := c'.toNat_lt
    simp only [List.mem_cons] at hc
    rcases hc with rfl | rfl | rfl | rfl | hc
    · exact ⟨_, by omega, rfl⟩
    · exact ⟨_, by omega, rfl⟩
    · exact ⟨_, by omega, rfl⟩
    · exact ⟨_, by omega, rfl⟩
    · exact ih hc

theorem padding_not_mem_digits (bytes : List UInt8) : ∀ c ∈ digits bytes, c ≠ '=' := by
  intro c hc
  obtain ⟨n, hn, rfl⟩ := exists_digit_of_mem hc
  exact digit_ne_padding n hn

theorem digit_or_padding_of_mem {bytes : List UInt8} {c : Char} (hc : c ∈ encodeChars bytes) :
    (∃ n < 64, c = digit n) ∨ c = '=' := by
  rcases List.mem_append.1 hc with hc | hc
  · exact .inl (exists_digit_of_mem hc)
  · exact .inr (List.eq_of_mem_replicate hc)

/-- The digits of a padded spelling are those before its padding. -/
theorem takeWhile_encodeChars (bytes : List UInt8) :
    (encodeChars bytes).takeWhile (· ≠ '=') = digits bytes := by
  have hd : ∀ c ∈ digits bytes, (decide (c ≠ '=')) = true :=
    fun c hc => by simp [padding_not_mem_digits bytes c hc]
  rw [encodeChars, List.takeWhile_append_of_pos hd, padding, List.takeWhile_replicate]
  simp

/-- **The padded spelling of some bytes reads back.** -/
theorem decode?_encode (bytes : List UInt8) : decode? (encode bytes) = some bytes := by
  have hwhole : encodeChars bytes = digits bytes ++ padding (digits bytes).length := rfl
  simp only [decode?, encode, String.toList_ofList, takeWhile_encodeChars]
  rw [if_pos hwhole, ofDigits?_digits]

theorem encode_injective {a b : List UInt8} (h : encode a = encode b) : a = b := by
  have hd := congrArg decode? h
  rw [decode?_encode, decode?_encode] at hd
  exact Option.some.inj hd

/-- **The digits of some bytes read back without their padding**, whichever spelling they are taken
for first: without it they are a padded spelling only where there is nothing to pad. -/
theorem decode_digits (bytes : List UInt8) :
    (decode? (String.ofList (digits bytes))).or (decodeUnpadded? (String.ofList (digits bytes))) =
      some bytes := by
  have hd : ∀ c ∈ digits bytes, (decide (c ≠ '=')) = true :=
    fun c hc => by simp [padding_not_mem_digits bytes c hc]
  have hbody : (digits bytes).takeWhile (· ≠ '=') = digits bytes := by
    have hwhole : (digits bytes ++ []).takeWhile (· ≠ '=') = digits bytes ++ [] :=
      List.takeWhile_append_of_pos hd
    rwa [List.append_nil] at hwhole
  simp only [decode?, decodeUnpadded?, String.toList_ofList, hbody, ofDigits?_digits]
  split <;> rfl

theorem encode_of_decode? {s : String} {bytes : List UInt8} (h : decode? s = some bytes) :
    s = encode bytes := by
  unfold decode? at h
  dsimp only at h
  split at h
  · next hwhole =>
    rw [← digits_of_ofDigits? h] at hwhole
    exact String.toList_inj.1 (by rw [hwhole, encode, String.toList_ofList, encodeChars])
  · cases h

theorem digits_of_decodeUnpadded? {s : String} {bytes : List UInt8}
    (h : decodeUnpadded? s = some bytes) : s = String.ofList (digits bytes) := by
  rw [digits_of_ofDigits? h, String.ofList_toList]

/-- **A text that is taken for either spelling is read just if it is one of the two.** -/
theorem decode_iff {s : String} {bytes : List UInt8} :
    (decode? s).or (decodeUnpadded? s) = some bytes ↔
      s = encode bytes ∨ s = String.ofList (digits bytes) := by
  constructor
  · intro h
    rcases Option.or_eq_some_iff.1 h with h | ⟨-, h⟩
    · exact .inl (encode_of_decode? h)
    · exact .inr (digits_of_decodeUnpadded? h)
  · rintro (rfl | rfl)
    · rw [decode?_encode]
      rfl
    · exact decode_digits bytes

end Moderation.Base64

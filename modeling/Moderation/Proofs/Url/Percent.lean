import Moderation.Proofs.Text.ByteOrder
import Moderation.Url.Percent
/-!
# Percent encoding reads back

Whatever else is written as bytes, as long as the percent sign is, the text can be taken back
(`Percent.decode?_encodeChars`): a percent sign in what is written always begins a byte.
-/

namespace Moderation.Percent

variable {set : Char → Bool}

/-- A digit of a byte. -/
def digit (n : Nat) : Char := if n < 10 then Char.ofNat (48 + n) else Char.ofNat (55 + n)

theorem byteChars_eq (b : UInt8) :
    byteChars b = ['%', digit (b.toNat / 16), digit (b.toNat % 16)] :=
  rfl

theorem hexValue?_digit : ∀ n < 16, Text.hexValue? (digit n) = some n := by decide

theorem decodeBytes_byteChars (b : UInt8) (rest : List Char) :
    decodeBytes (byteChars b ++ rest) = b :: decodeBytes rest := by
  have hb := b.toNat_lt
  have high := hexValue?_digit (b.toNat / 16) (by omega)
  have low := hexValue?_digit (b.toNat % 16) (by omega)
  have whole : 16 * (b.toNat / 16) + b.toNat % 16 = b.toNat := by omega
  simp only [byteChars_eq, List.cons_append, List.nil_append, decodeBytes, high, low, whole,
    UInt8.ofNat_toNat]

theorem decodeBytes_flatMap (bytes : List UInt8) (rest : List Char) :
    decodeBytes (bytes.flatMap byteChars ++ rest) = bytes ++ decodeBytes rest := by
  induction bytes with
  | nil => rfl
  | cons b bytes ih =>
    rw [List.flatMap_cons, List.append_assoc, decodeBytes_byteChars, ih, List.cons_append]

/-- A character that is no percent sign stands for itself. -/
theorem decodeBytes_cons {c : Char} (hc : c ≠ '%') (rest : List Char) :
    decodeBytes (c :: rest) = String.utf8EncodeChar c ++ decodeBytes rest := by
  rw [decodeBytes.eq_3 c rest fun a b r h => absurd h hc, Text.toList_toUTF8, String.toList_ofList,
    List.flatMap_singleton]

theorem encodeChars_cons (c : Char) (cs : List Char) :
    encodeChars set (c :: cs) = encodeChar set c ++ encodeChars set cs :=
  List.flatMap_cons

theorem encodeChar_of_mem {c : Char} (hc : set c = true) :
    encodeChar set c = (String.utf8EncodeChar c).flatMap byteChars := by
  rw [encodeChar, if_pos hc, Text.toList_toUTF8, String.toList_ofList, List.flatMap_singleton]

theorem encodeChar_of_not_mem {c : Char} (hc : set c ≠ true) : encodeChar set c = [c] := by
  rw [encodeChar, if_neg hc]

theorem decodeBytes_encodeChars (h : set '%' = true) (cs : List Char) :
    decodeBytes (encodeChars set cs) = cs.flatMap String.utf8EncodeChar := by
  induction cs with
  | nil => rfl
  | cons c cs ih =>
    rw [encodeChars_cons, List.flatMap_cons, ← ih]
    by_cases hc : set c = true
    · rw [encodeChar_of_mem hc, decodeBytes_flatMap]
    · have hne : c ≠ '%' := by
        rintro rfl
        exact hc h
      rw [encodeChar_of_not_mem hc, List.singleton_append, decodeBytes_cons hne]

/-- Bytes that are those of a text spell it. -/
theorem decode?_of_bytes {cs : List Char} {s : String}
    (h : decodeBytes cs = s.toList.flatMap String.utf8EncodeChar) : decode? cs = some s := by
  have hbytes : (⟨(decodeBytes cs).toArray⟩ : ByteArray) = s.toByteArray := by
    rw [h, ← String.ofList_toList (s := s), String.toByteArray_ofList, List.utf8Encode]
    simp [ByteArray.ext_iff]
  rw [decode?, hbytes, String.fromUTF8?]
  exact dif_pos s.isValidUTF8

/-- **What is encoded reads back.** -/
theorem decode?_encodeChars (h : set '%' = true) (s : String) :
    decode? (encodeChars set s.toList) = some s :=
  decode?_of_bytes (decodeBytes_encodeChars h s.toList)

/-- Encoding brings in no slash, and takes it out where it is encoded itself. -/
theorem slash_notMem_encodeChars {cs : List Char} (h : set '/' = true ∨ '/' ∉ cs) :
    '/' ∉ encodeChars set cs := by
  have hdigit : ∀ n < 16, digit n ≠ '/' := by decide
  have hbyte : ∀ b : UInt8, '/' ∉ byteChars b := by
    intro b
    have hb := b.toNat_lt
    have high := hdigit (b.toNat / 16) (by omega)
    have low := hdigit (b.toNat % 16) (by omega)
    simp [byteChars_eq, high.symm, low.symm]
  intro hmem
  obtain ⟨c, hc, hmem⟩ := List.mem_flatMap.1 hmem
  by_cases hset : set c = true
  · rw [encodeChar_of_mem hset] at hmem
    obtain ⟨b, -, hb⟩ := List.mem_flatMap.1 hmem
    exact hbyte b hb
  · rw [encodeChar_of_not_mem hset, List.mem_singleton] at hmem
    subst hmem
    exact h.elim hset fun hno => hno hc

end Moderation.Percent

import Mathlib.Data.List.Lex
import Mathlib.Tactic.SplitIfs
/-!
# The order of texts is that of their bytes

Texts are compared character by character.  As UTF-8 spells a greater character by bytes that are
greater where they first differ, it comes to the same to compare them byte by byte
(`Text.lt_iff_bytes`).
-/

namespace Moderation.Text

/-- The bytes of a text. -/
def bytes (s : String) : List UInt8 := s.toUTF8.data.toList

/-- Bytes that spell a smaller character come first, whatever follows them. -/
theorem utf8EncodeChar_append_lt {c d : Char} (h : c < d) (s t : List UInt8) :
    String.utf8EncodeChar c ++ s < String.utf8EncodeChar d ++ t := by
  have hcd : c.val.toNat < d.val.toNat := h
  have hd : d.val.toNat < 1114112 := by
    rcases d.valid with h | ⟨_, h⟩ <;> grind
  have hlt {m n : Nat} (hm : m < 256) (hn : n < 256) :
      UInt8.ofNat m < UInt8.ofNat n ↔ m < n := by
    rw [UInt8.lt_iff_toNat_lt, UInt8.toNat_ofNat', UInt8.toNat_ofNat', Nat.mod_eq_of_lt hm,
      Nat.mod_eq_of_lt hn]
  have heq {m n : Nat} (hm : m < 256) (hn : n < 256) :
      UInt8.ofNat m = UInt8.ofNat n ↔ m = n := by
    rw [← UInt8.toNat_inj, UInt8.toNat_ofNat', UInt8.toNat_ofNat', Nat.mod_eq_of_lt hm,
      Nat.mod_eq_of_lt hn]
  have hdiv (k : Nat) : k / 4096 = k / 64 / 64 ∧ k / 262144 = k / 64 / 64 / 64 := by omega
  unfold String.utf8EncodeChar
  dsimp only
  rw [(hdiv _).1, (hdiv _).2, (hdiv d.val.toNat).1, (hdiv d.val.toNat).2]
  generalize c.val.toNat = m at *
  generalize d.val.toNat = n at *
  -- A longer spelling begins with a greater byte; of two as long, the digits to base 64 decide.
  split_ifs <;>
    simp (disch := omega) only [List.cons_append, List.nil_append, List.cons_lt_cons_iff, hlt,
      heq] <;>
    omega

theorem bytes_eq (s : String) : bytes s = s.toList.flatMap String.utf8EncodeChar := by
  have h : s.toByteArray = (s.toList.flatMap String.utf8EncodeChar).toByteArray := by
    rw [← List.utf8Encode, ← String.toByteArray_ofList, String.ofList_toList]
  rw [bytes, String.toUTF8_eq_toByteArray, h]
  simp

theorem toList_loop (b : ByteArray) (i : Nat) (r : List UInt8) :
    ByteArray.toList.loop b i r = r.reverse ++ b.data.toList.drop i := by
  induction hn : b.size - i generalizing i r with
  | zero =>
    have hi : ¬i < b.size := by omega
    rw [ByteArray.toList.loop, if_neg hi, List.drop_eq_nil_of_le (by simpa using hi),
      List.append_nil]
  | succ n ih =>
    have hi : i < b.size := by omega
    have hi' : i < b.data.toList.length := hi
    have hget : b.get! i = b.data.toList[i] := getElem!_pos b.data i hi
    rw [ByteArray.toList.loop, if_pos hi, ih _ _ (by omega), List.drop_eq_getElem_cons hi', hget]
    simp

theorem toList_toUTF8 (s : String) :
    s.toUTF8.toList = s.toList.flatMap String.utf8EncodeChar := by
  rw [ByteArray.toList, toList_loop, ← bytes_eq]
  rfl

theorem flatMap_lt {cs ds : List Char} (h : cs < ds) :
    cs.flatMap String.utf8EncodeChar < ds.flatMap String.utf8EncodeChar := by
  induction cs generalizing ds with
  | nil =>
    cases ds with
    | nil => exact absurd h (List.lt_irrefl _)
    | cons d ds =>
      rw [List.flatMap_cons, List.flatMap_nil]
      cases hd : String.utf8EncodeChar d ++ ds.flatMap String.utf8EncodeChar with
      | nil => simp [String.utf8EncodeChar_ne_nil] at hd
      | cons b bs => exact List.nil_lt_cons b bs
  | cons c cs ih =>
    cases ds with
    | nil => exact absurd h (List.not_lt_nil _)
    | cons d ds =>
      rw [List.flatMap_cons, List.flatMap_cons]
      rcases List.cons_lt_cons_iff.1 h with hlt | ⟨rfl, hrest⟩
      · exact utf8EncodeChar_append_lt hlt _ _
      · exact List.append_left_lt (ih hrest)

/-- **The order of texts is that of their bytes.** -/
theorem lt_iff_bytes (s t : String) : s < t ↔ bytes s < bytes t := by
  rw [bytes_eq, bytes_eq, String.lt_iff]
  refine ⟨flatMap_lt, fun h => ?_⟩
  by_contra hnot
  by_cases hgt : t.toList < s.toList
  · exact absurd h (List.lt_asymm (flatMap_lt hgt))
  · rw [String.toList_inj.1 (List.le_antisymm hgt hnot)] at h
    exact absurd h (List.lt_irrefl _)

theorem pairwise_bytes {l : List String} (h : l.Pairwise (· < ·)) :
    l.Pairwise fun s t => bytes s < bytes t :=
  h.imp fun hlt => (lt_iff_bytes _ _).1 hlt

end Moderation.Text

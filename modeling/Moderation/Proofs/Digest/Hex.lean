import Moderation.Digest.Sha256
import Moderation.Text.Hex
/-!
# Hexadecimal text reads back

The digits of some bytes read back as those bytes (`ofHex?_toHex`), so no two sequences of bytes
have the same digits (`toHex_injective`), and neither have two digests (`digest_eq_of_toHex_eq`).
-/

namespace Moderation
namespace Text

theorem digitValue_hexDigit : ∀ n < 16, hexValue? (hexDigit n) = some n := by decide

theorem hexBytes?_hexByte (done : List UInt8) (b : UInt8) (rest : List Char) :
    hexBytes? done (hexByte b ++ rest) = hexBytes? (b :: done) rest := by
  have hb := b.toNat_lt
  have high := digitValue_hexDigit (b.toNat / 16) (by omega)
  have low := digitValue_hexDigit (b.toNat % 16) (by omega)
  have whole : 16 * (b.toNat / 16) + b.toNat % 16 = b.toNat := by omega
  simp only [hexByte, List.cons_append, List.nil_append, hexBytes?, high, low, whole,
    UInt8.ofNat_toNat]

theorem hexBytes?_flatMap (done bytes : List UInt8) :
    hexBytes? done (bytes.flatMap hexByte) = some (done.reverse ++ bytes) := by
  induction bytes generalizing done with
  | nil => simp [hexBytes?]
  | cons b bytes ih => rw [List.flatMap_cons, hexBytes?_hexByte, ih]; simp

/-- **The digits of some bytes read back.** -/
theorem ofHex?_toHex (bytes : List UInt8) : ofHex? (toHex bytes) = some bytes := by
  rw [ofHex?, toHex, String.toList_ofList, hexBytes?_flatMap]
  rfl

theorem toHex_injective {a b : List UInt8} (h : toHex a = toHex b) : a = b := by
  have hread := congrArg ofHex? h
  rw [ofHex?_toHex, ofHex?_toHex] at hread
  exact Option.some.inj hread

end Text

/-- Digests with the same digits are the same. -/
theorem digest_eq_of_toHex_eq {d e : Digest} (h : Text.toHex d.toList = Text.toHex e.toList) :
    d = e :=
  Vector.toList_inj.1 (Text.toHex_injective h)

end Moderation

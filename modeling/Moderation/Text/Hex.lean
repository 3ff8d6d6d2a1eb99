/-!
# Hexadecimal text

Bytes as pairs of lower-case hexadecimal digits, and back.
-/

namespace Moderation.Text

/-- The digit for a number below sixteen. -/
def hexDigit (n : Nat) : Char := if n < 10 then Char.ofNat (48 + n) else Char.ofNat (87 + n)

/-- The two digits of a byte. -/
def hexByte (b : UInt8) : List Char := [hexDigit (b.toNat / 16), hexDigit (b.toNat % 16)]

/-- Bytes in hexadecimal, two digits each. -/
def toHex (bytes : List UInt8) : String := String.ofList (bytes.flatMap hexByte)

/-- The value of a hexadecimal digit in either case. -/
def hexValue? (c : Char) : Option Nat :=
  if '0' ≤ c && c ≤ '9' then some (c.toNat - 48)
  else if 'a' ≤ c && c ≤ 'f' then some (c.toNat - 87)
  else if 'A' ≤ c && c ≤ 'F' then some (c.toNat - 55)
  else none

/-- Reads pairs of digits; `done` holds the bytes so far, last one first. -/
def hexBytes? (done : List UInt8) : List Char → Option (List UInt8)
  | [] => some done.reverse
  | [_] => none
  | a :: b :: rest =>
    match hexValue? a, hexValue? b with
    | some x, some y => hexBytes? (UInt8.ofNat (16 * x + y) :: done) rest
    | _, _ => none

/-- The bytes that a text of digit pairs spells. -/
def ofHex? (s : String) : Option (List UInt8) := hexBytes? [] s.toList

end Moderation.Text

/-!
# Base64

The standard alphabet.  `encode` always pads; `decode?` accepts exactly the padded spelling of some
bytes and `decodeUnpadded?` exactly the spelling without its padding.  Bits that a final group
leaves over have to be zero, so each sequence of bytes has one spelling of either kind.
-/

namespace Moderation.Base64

/-- The digit for a number below sixty-four. -/
def digit (n : Nat) : Char :=
  if n < 26 then Char.ofNat (65 + n)
  else if n < 52 then Char.ofNat (71 + n)
  else if n < 62 then Char.ofNat (n - 4)
  else if n = 62 then '+' else '/'

/-- The number that a digit stands for. -/
def value? (c : Char) : Option Nat :=
  if 'A' ≤ c && c ≤ 'Z' then some (c.toNat - 65)
  else if 'a' ≤ c && c ≤ 'z' then some (c.toNat - 71)
  else if '0' ≤ c && c ≤ '9' then some (c.toNat + 4)
  else if c = '+' then some 62
  else if c = '/' then some 63
  else none

/-- The digits of some bytes, without padding. -/
def digits : List UInt8 → List Char
  | [] => []
  | [a] => [digit (a.toNat / 4), digit (a.toNat % 4 * 16)]
  | [a, b] =>
    [digit (a.toNat / 4), digit (a.toNat % 4 * 16 + b.toNat / 16), digit (b.toNat % 16 * 4)]
  | a :: b :: c :: rest =>
    digit (a.toNat / 4) :: digit (a.toNat % 4 * 16 + b.toNat / 16) ::
      digit (b.toNat % 16 * 4 + c.toNat / 64) :: digit (c.toNat % 64) :: digits rest

/-- The padding that completes a number of digits to whole groups of four. -/
def padding (count : Nat) : List Char := List.replicate ((4 - count % 4) % 4) '='

/-- The padded spelling of some bytes, as characters. -/
def encodeChars (bytes : List UInt8) : List Char := digits bytes ++ padding (digits bytes).length

/-- The padded spelling of some bytes. -/
def encode (bytes : List UInt8) : String := String.ofList (encodeChars bytes)

/-- The bytes that digits without padding spell. -/
def ofDigits? : List Char → Option (List UInt8)
  | [] => some []
  | [_] => none
  | [p, q] => do
    let x ← value? p
    let y ← value? q
    if y % 16 = 0 then some [UInt8.ofNat (x * 4 + y / 16)] else none
  | [p, q, r] => do
    let x ← value? p
    let y ← value? q
    let z ← value? r
    if z % 4 = 0 then some [UInt8.ofNat (x * 4 + y / 16), UInt8.ofNat (y % 16 * 16 + z / 4)]
    else none
  | p :: q :: r :: s :: rest => do
    let x ← value? p
    let y ← value? q
    let z ← value? r
    let w ← value? s
    let bytes ← ofDigits? rest
    some (UInt8.ofNat (x * 4 + y / 16) :: UInt8.ofNat (y % 16 * 16 + z / 4) ::
      UInt8.ofNat (z % 4 * 64 + w) :: bytes)

/-- The bytes that a text spells without padding. -/
def decodeUnpadded? (s : String) : Option (List UInt8) := ofDigits? s.toList

/-- The bytes that a text spells with its padding, neither more nor less of it. -/
def decode? (s : String) : Option (List UInt8) :=
  let body := s.toList.takeWhile (· ≠ '=')
  if s.toList = body ++ padding body.length then ofDigits? body else none

end Moderation.Base64

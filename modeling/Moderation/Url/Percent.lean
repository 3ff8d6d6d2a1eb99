import Moderation.Text.Hex
/-!
# Percent encoding

In a part of a URL, characters that would be taken for something else there are written as the bytes
of their UTF-8 form, each a percent sign and two hexadecimal digits.  Characters outside ASCII are
always written like this; which others are depends on the part.
-/

namespace Moderation.Percent

/-- The control characters, which are written as bytes everywhere, as are those outside ASCII. -/
def inControls (c : Char) : Bool := c.toNat < 0x20 || 0x7F ≤ c.toNat

/-- What is written as bytes in a query. -/
def inQuery (c : Char) : Bool := inControls c || " \"#<>".toList.contains c

/-- What is written as bytes in a query of a special URL. -/
def inSpecialQuery (c : Char) : Bool := inQuery c || c.toNat = 39

/-- What is written as bytes in a path that is read off a URL. -/
def inPath (c : Char) : Bool := inQuery c || "?^`\x7b\x7d".toList.contains c

/-- What is written as bytes in one segment of a path: in a special URL the backslash too. -/
def inSegment (special : Bool) (c : Char) : Bool :=
  inPath c || c = '/' || c = '%' || (special && c = '\\')

/-- What is written as bytes in the name and the password of a user. -/
def inUserInfo (c : Char) : Bool := inPath c || "/:;=@[\\]|".toList.contains c

/-- A byte as a percent sign and two upper-case digits. -/
def byteChars (b : UInt8) : List Char :=
  let digit (n : Nat) : Char := if n < 10 then Char.ofNat (48 + n) else Char.ofNat (55 + n)
  ['%', digit (b.toNat / 16), digit (b.toNat % 16)]

/-- A character, written as bytes if it belongs to a set. -/
def encodeChar (set : Char → Bool) (c : Char) : List Char :=
  if set c then (String.ofList [c]).toUTF8.toList.flatMap byteChars else [c]

/-- Characters, those of a set written as bytes. -/
def encodeChars (set : Char → Bool) (cs : List Char) : List Char := cs.flatMap (encodeChar set)

/-- The bytes of a text, those that are written with a percent sign taken back.  A percent sign
without two digits after it stands for itself. -/
def decodeBytes : List Char → List UInt8
  | [] => []
  | '%' :: a :: b :: rest =>
    match Text.hexValue? a, Text.hexValue? b with
    | some x, some y => UInt8.ofNat (16 * x + y) :: decodeBytes rest
    | _, _ => '%'.val.toUInt8 :: decodeBytes (a :: b :: rest)
  | c :: rest => (String.ofList [c]).toUTF8.toList ++ decodeBytes rest

/-- The text that a percent-encoded text spells, if its bytes are UTF-8. -/
def decode? (cs : List Char) : Option String := String.fromUTF8? ⟨(decodeBytes cs).toArray⟩

end Moderation.Percent

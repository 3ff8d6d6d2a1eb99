import Moderation.Json.Value
/-!
# Canonical JSON

The canonical form of RFC 8785: the members of every object in the order of their names, names
compared by their UTF-16 code units, no space anywhere.  Two values with the same members in a
different order have the same canonical text, which is why a hash over it does not depend on how a
record was written down.
-/

namespace Moderation.Json

/-- The UTF-16 code units of a character. -/
def utf16Units (c : Char) : List Nat :=
  if c.toNat < 0x10000 then [c.toNat]
  else [0xD800 + (c.toNat - 0x10000) / 0x400, 0xDC00 + (c.toNat - 0x10000) % 0x400]

/-- The UTF-16 code units of a text. -/
def utf16 (s : String) : List Nat := s.toList.flatMap utf16Units

/-- Lexicographic comparison of code units: the first is not after the second. -/
def unitsLe : List Nat → List Nat → Bool
  | [], _ => true
  | _ :: _, [] => false
  | a :: as, b :: bs => a < b || (a == b && unitsLe as bs)

/-- The order of member names in canonical text. -/
def nameLe (a b : String) : Bool := unitsLe (utf16 a) (utf16 b)

mutual

/-- A value with the members of every object in canonical order. -/
def sorted : Json → Json
  | .array items => .array (sortedItems items)
  | .object members => .object ((sortedMembers members).mergeSort fun a b => nameLe a.1 b.1)
  | j => j

/-- The items of an array, each in canonical order. -/
def sortedItems : List Json → List Json
  | [] => []
  | j :: rest => sorted j :: sortedItems rest

/-- The members of an object, each value in canonical order. -/
def sortedMembers : List (String × Json) → List (String × Json)
  | [] => []
  | (name, j) :: rest => (name, sorted j) :: sortedMembers rest

end

/-- The canonical text of a value. -/
def canonical (j : Json) : String := j.sorted.render

end Moderation.Json

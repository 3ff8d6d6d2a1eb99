/-!
# Labels in other scripts

A label of a domain that begins with `xn--` spells a label with characters outside ASCII: those
inside it come first, up to the last hyphen, and what follows are numbers in base 36 of varying
length that say which of the others go in between, and where.  Only whether a label spells one is of
interest here, so of the label that is spelt only the length is kept.
-/

namespace Moderation.Punycode

/-- The value of a digit, letters first. -/
def digit? (c : Char) : Option Nat :=
  if 'a' ≤ c && c ≤ 'z' then some (c.toNat - 97)
  else if 'A' ≤ c && c ≤ 'Z' then some (c.toNat - 65)
  else if '0' ≤ c && c ≤ '9' then some (c.toNat - 22)
  else none

/-- A label that is being read: how many characters it has, the code of the last one and the bias of
the numbers; and the number that is being read: what it starts from, its value so far, and the place
and the weight of its next digit. -/
structure Scan where
  length : Nat
  code : Nat := 128
  bias : Nat := 72
  start : Nat := 0
  value : Nat := 0
  place : Nat := 36
  weight : Nat := 1

namespace Scan

/-- The least digit that does not end a number at the place. -/
def threshold (s : Scan) : Nat := min 26 (max 1 (s.place - s.bias))

/-- What is left of a difference after it has been divided by 35 as often as it can be, and 36 times
how often that was. -/
def reduce : Nat → Nat → Nat → Nat × Nat
  | 0, difference, places => (difference, places)
  | times + 1, difference, places =>
    if 455 < difference then reduce times (difference / 35) (places + 36) else (difference, places)

/-- The bias after a number, from its difference to the number it started from. -/
def nextBias (s : Scan) (value : Nat) : Nat :=
  let halved := (value - s.start) / (if s.start = 0 then 700 else 2)
  let (difference, places) := reduce 32 (halved + halved / (s.length + 1)) 0
  places + 36 * difference / (difference + 38)

/-- Whether a number is the code of a character that a label can have; the control characters
outside ASCII and the space after them are none. -/
def isCode (n : Nat) : Bool := (0xA0 < n && n < 0xD800) || (0xDFFF < n && n < 0x110000)

/-- Reads a digit.  The last one of a number adds a character. -/
def step (s : Scan) (c : Char) : Option Scan := do
  let d ← digit? c
  let value := s.value + d * s.weight
  if UInt32.size ≤ value then none
  else if d < s.threshold then
    let code := s.code + value / (s.length + 1)
    let start := value % (s.length + 1) + 1
    if isCode code then
      some { length := s.length + 1, code, bias := s.nextBias value, start, value := start }
    else none
  else some { s with value, place := s.place + 36, weight := s.weight * (36 - s.threshold) }

end Scan

/-- Whether what follows `xn--` spells a label with characters outside ASCII. -/
def isValid (cs : List Char) : Bool :=
  let numbers := if cs.contains '-' then (cs.reverse.takeWhile (· ≠ '-')).reverse else cs
  let length := cs.length - numbers.length - 1
  let numbers := if length = 0 then cs else numbers
  match numbers.foldlM Scan.step { length } with
  | some s => !numbers.isEmpty && s.place = 36
  | none => false

/-- Whether a label of a domain is one, spelt like this or not. -/
def isLabel : List Char → Bool
  | 'x' :: 'n' :: '-' :: '-' :: cs => isValid cs
  | _ => true

end Moderation.Punycode

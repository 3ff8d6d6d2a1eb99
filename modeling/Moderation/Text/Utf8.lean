/-!
# Text in bytes that may be damaged

Bytes that should be UTF-8 shown as text: every sequence that spells a character becomes that
character, and every longest beginning of a sequence that breaks off becomes the replacement
character.
-/

namespace Moderation.Text

/-- What a first byte begins: the bits it contributes and the ranges in which the bytes after it
have to lie. -/
def sequenceOf (b : UInt8) : Option (Nat × List (UInt8 × UInt8)) :=
  if b < 0x80 then some (b.toNat, [])
  else if b < 0xC2 then none
  else if b < 0xE0 then some (b.toNat - 0xC0, [(0x80, 0xBF)])
  else if b = 0xE0 then some (0, [(0xA0, 0xBF), (0x80, 0xBF)])
  else if b = 0xED then some (0xD, [(0x80, 0x9F), (0x80, 0xBF)])
  else if b < 0xF0 then some (b.toNat - 0xE0, [(0x80, 0xBF), (0x80, 0xBF)])
  else if b = 0xF0 then some (0, [(0x90, 0xBF), (0x80, 0xBF), (0x80, 0xBF)])
  else if b < 0xF4 then some (b.toNat - 0xF0, [(0x80, 0xBF), (0x80, 0xBF), (0x80, 0xBF)])
  else if b = 0xF4 then some (4, [(0x80, 0x8F), (0x80, 0xBF), (0x80, 0xBF)])
  else none

/-- Goes on with a sequence: its value if all the bytes it needs follow, and what is left. -/
def continueSequence (value : Nat) : List (UInt8 × UInt8) → List UInt8 → Option Nat × List UInt8
  | [], rest => (some value, rest)
  | (first, last) :: ranges, b :: rest =>
    if first ≤ b && b ≤ last then continueSequence (value * 64 + b.toNat % 64) ranges rest
    else (none, b :: rest)
  | _ :: _, [] => (none, [])

theorem continueSequence_length (value : Nat) (ranges : List (UInt8 × UInt8)) (bytes : List UInt8) :
    (continueSequence value ranges bytes).2.length ≤ bytes.length := by
  fun_induction continueSequence value ranges bytes <;> grind

/-- The character that stands for bytes which spell none. -/
def replacement : Char := Char.ofNat 0xFFFD

/-- The text of some bytes, damaged sequences replaced. -/
def displayChars : List UInt8 → List Char
  | [] => []
  | b :: bytes =>
    match sequenceOf b with
    | none => replacement :: displayChars bytes
    | some (value, ranges) =>
      let next := continueSequence value ranges bytes
      (next.1.map Char.ofNat).getD replacement :: displayChars next.2
  termination_by bytes => bytes.length
  decreasing_by
    · simp
    · have := continueSequence_length value ranges bytes
      simp only [List.length_cons]
      omega

/-- The text of some bytes, damaged sequences replaced. -/
def display (bytes : ByteArray) : String := String.ofList (displayChars bytes.toList)

end Moderation.Text

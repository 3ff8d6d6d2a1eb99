import Moderation.Text.CaseTable
/-!
# Lower-casing

Text in lower case by the full Unicode rules: each character has its own mapping, a capital I with a
dot becomes two characters, and a capital sigma becomes a final sigma where it ends a word.  ASCII
text is mapped letter by letter, so a command verb written in ASCII is recognised in any mixture of
cases.
-/

namespace Moderation.Text

/-- Membership in a property given by inclusive ranges. -/
def inRanges (ranges : Array (Nat × Nat)) (c : Char) : Bool :=
  ranges.any fun (first, last) => first ≤ c.toNat && c.toNat ≤ last

/-- A character that has case and is not skipped when a word is looked at. -/
def isCased (c : Char) : Bool := c.isAlpha || (128 ≤ c.toNat && inRanges casedRanges c)

/-- A character that is skipped when the letters around a sigma are looked for. -/
def isCaseIgnorable (c : Char) : Bool := inRanges caseIgnorableRanges c

/-- The lower-case form of one character outside any context. -/
def lowerChar (c : Char) : List Char :=
  if c.toNat < 128 then [c.toLower]
  else if c.toNat = 0x130 then ['i', Char.ofNat 0x307]
  else
    match lowercaseRuns.find? fun (first, last, step, _) =>
        first ≤ c.toNat && c.toNat ≤ last && (c.toNat - first) % step == 0 with
    | some (_, _, _, shift) => [Char.ofNat (Int.toNat (c.toNat + shift))]
    | none => [c]

/-- Whether the first letter of a text, case-ignorable characters skipped, is cased. -/
def startsCased (cs : List Char) : Bool :=
  match cs.dropWhile isCaseIgnorable with
  | c :: _ => isCased c
  | [] => false

/-- Lower-cases a text after a context: `after` says whether the last letter before it is cased.  A
capital sigma is final when a letter stands before it and none follows.  `done` holds the result so
far, last character first. -/
def lowerFrom (after : Bool) (done : List Char) : List Char → List Char
  | [] => done.reverse
  | c :: rest =>
    let out := if c.toNat = 0x3A3 then
        [Char.ofNat (if after && !startsCased rest then 0x3C2 else 0x3C3)]
      else lowerChar c
    let after := if c.toNat < 128 && c.isAlpha then true
      else if isCaseIgnorable c then after else isCased c
    lowerFrom after (out.reverse ++ done) rest

/-- A text in lower case. -/
def lower (s : String) : String := String.ofList (lowerFrom false [] s.toList)

end Moderation.Text

/-!
# Regular expressions

What regular expressions are made of here: characters, escaped or not, the dot, classes of
characters in square brackets, the anchors, the star and the plus.  `Regex.ofText?` reads a text as
an expression, and `Regex.FoundIn` says where one is found: somewhere in a text there is a run which
the parts take one after another.
-/

namespace Moderation

namespace Regex

/-- What stands for one character or for a place.  A class is written as the ranges of characters
that are in it. -/
inductive Atom where
  | literal (c : Char)
  | dot
  | oneOf (ranges : List (Char × Char))
  | start
  | finish
  deriving DecidableEq, Repr

/-- An atom, which may have a star. -/
structure Part where
  atom : Atom
  starred : Bool := false
  deriving DecidableEq, Repr

/-- One sign of the text of an expression. -/
inductive Token where
  | atom (a : Atom)
  | star
  | plus
  deriving DecidableEq, Repr

/-- Whether a character has a meaning of its own, so that it is escaped to stand for itself. -/
def isMeta (c : Char) : Bool :=
  c ∈ ['\\', '.', '+', '*', '?', '(', ')', '|', '[', ']', '\x7b', '\x7d', '^', '$',
    '#', '&', '-', '~']

/-- A character written so that it stands for itself. -/
def escape (c : Char) : List Char := if isMeta c then ['\\', c] else [c]

/-- What a character means where it is not escaped. -/
def Token.ofChar? (c : Char) : Option Token :=
  if c = '.' then some (.atom .dot)
  else if c = '^' then some (.atom .start)
  else if c = '$' then some (.atom .finish)
  else if c = '*' then some .star
  else if c = '+' then some .plus
  else if isMeta c then none
  else some (.atom (.literal c))

/-- Whether a character stands for itself between square brackets. -/
def isClassMember (c : Char) : Bool := c ∉ ['\\', '[', ']', '^', '&', '~', '-']

/-- The ranges that are written between square brackets: from one character to another with a hyphen
between them, or one character.  A hyphen stands for itself at the end. -/
def ranges? : List Char → Option (List (Char × Char))
  | [] => some []
  | ['-'] => some [('-', '-')]
  | low :: '-' :: high :: rest =>
    if isClassMember low && isClassMember high && low ≤ high then
      (ranges? rest).map ((low, high) :: ·)
    else none
  | c :: rest => if isClassMember c then (ranges? rest).map ((c, c) :: ·) else none

mutual

/-- The signs of a text. -/
def tokens? : List Char → Option (List Token)
  | [] => some []
  | '\\' :: c :: rest => if isMeta c then (tokens? rest).map (.atom (.literal c) :: ·) else none
  | '[' :: rest => classTokens? [] rest
  | c :: rest => do
    let token ← Token.ofChar? c
    let tokens ← tokens? rest
    return token :: tokens

/-- The signs of a text that begins inside square brackets; `members` is what stands before it
there, the last first. -/
def classTokens? (members : List Char) : List Char → Option (List Token)
  | [] => none
  | ']' :: rest => do
    let ranges ← if members.isEmpty then none else ranges? members.reverse
    let tokens ← tokens? rest
    return .atom (.oneOf ranges) :: tokens
  | c :: rest => classTokens? (c :: members) rest

end

/-- The parts that signs make up: a star or a plus belongs to the atom before it.  A plus is the
atom and the same with a star. -/
def parts? : List Token → Option (List Part)
  | [] => some []
  | .star :: _ => none
  | .plus :: _ => none
  | .atom a :: .star :: rest => (parts? rest).map (⟨a, true⟩ :: ·)
  | .atom a :: .plus :: rest => (parts? rest).map (⟨a, false⟩ :: ⟨a, true⟩ :: ·)
  | .atom a :: rest => (parts? rest).map (⟨a, false⟩ :: ·)

end Regex

/-- A regular expression: its parts, one after another. -/
structure Regex where
  parts : List Regex.Part
  deriving DecidableEq, Repr

namespace Regex

/-- The expression that a text is, if it is one of those described here. -/
def ofText? (s : String) : Option Regex := ((tokens? s.toList).bind parts?).map Regex.mk

/-- An atom takes the run that stands between what is before and what is after. -/
def Atom.Takes (before run after : List Char) : Atom → Prop
  | .literal c => run = [c]
  | .dot => ∃ c, c ≠ '\n' ∧ run = [c]
  | .oneOf ranges => ∃ c, (∃ r ∈ ranges, r.1 ≤ c ∧ c ≤ r.2) ∧ run = [c]
  | .start => before = [] ∧ run = []
  | .finish => after = [] ∧ run = []

/-- An atom takes a run by taking the pieces of it, as many as there are. -/
inductive Atom.Repeats (a : Atom) : List Char → List Char → List Char → Prop
  | done {before after} : Repeats a before [] after
  | more {before first rest after} : a.Takes before first (rest ++ after) →
      Repeats a (before ++ first) rest after → Repeats a before (first ++ rest) after

/-- A part takes a run. -/
def Part.Takes (p : Part) (before run after : List Char) : Prop :=
  if p.starred then p.atom.Repeats before run after else p.atom.Takes before run after

/-- Parts take a run one after another. -/
def TakeInTurn : List Part → List Char → List Char → List Char → Prop
  | [], _, run, _ => run = []
  | p :: parts, before, run, after =>
    ∃ first rest, run = first ++ rest ∧ p.Takes before first (rest ++ after) ∧
      TakeInTurn parts (before ++ first) rest after

/-- An expression is found in a text. -/
def FoundIn (r : Regex) (s : String) : Prop :=
  ∃ before run after, s.toList = before ++ run ++ after ∧ TakeInTurn r.parts before run after

end Regex

end Moderation

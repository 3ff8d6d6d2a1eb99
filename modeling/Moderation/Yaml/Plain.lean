import Moderation.Yaml.Scalar
import Moderation.Json.Value
/-!
# What plain scalars stand for

A **plain** scalar may be more than a text: nothing, a truth value, an integer or a number.
Integers are decimal, or hexadecimal, octal or binary behind a mark; a decimal one that begins with
a needless zero is a text.  A scalar that is an integer beyond sixty-four bits, but not beyond a
hundred and twenty-eight, is refused; one beyond that is a number like any other.
-/

namespace Moderation.Yaml

/-- The value of a non-empty run of digits in a base. -/
def natOf? (base : Nat) (cs : List Char) : Option Nat :=
  if cs.isEmpty then none
  else cs.foldlM
    (fun n c => (hexDigit? c).bind fun d => if d < base then some (base * n + d) else none) 0

/-- The digits after the mark of a base, and the base. -/
def marked? : List Char → Option (Nat × List Char)
  | '0' :: 'x' :: cs => some (16, cs)
  | '0' :: 'o' :: cs => some (8, cs)
  | '0' :: 'b' :: cs => some (2, cs)
  | _ => none

/-- Whether a scalar without its sign has a needless zero in front of its digits, which makes it a
text. -/
def hasNeedlessZero : List Char → Bool
  | '0' :: c :: cs => (c :: cs).all Char.isDigit
  | _ => false

/-- The size of an integer without its sign. -/
def magnitude? (cs : List Char) : Option Nat :=
  match marked? cs with
  | some (base, digits) => natOf? base digits
  | none => if hasNeedlessZero cs then none else natOf? 10 cs

/-- The sign of a scalar, of which there is one at most, and what follows it. -/
def signed (cs : List Char) : Bool × List Char :=
  match cs with
  | '-' :: rest => (true, rest)
  | '+' :: rest => (false, rest)
  | _ => (false, cs)

/-- The integer that a scalar stands for. -/
def integer? (cs : List Char) : Option Int :=
  let (negative, digits) := signed cs
  (magnitude? digits).map fun n => if negative then -(n : Int) else n

/-- Whether an integer has sixty-four bits, the sign of a negative one included. -/
def isWord (n : Int) : Bool := Int64.minValue.toInt ≤ n && n < UInt64.size

/-- Whether an integer has a hundred and twenty-eight bits, the sign of a negative one included. -/
def isDoubleWord (n : Int) : Bool := -(Nat.pow 2 127 : Int) ≤ n && n < (Nat.pow 2 128 : Int)

/-- The exponent at the end of a number. -/
def exponent? : List Char → Option Int
  | [] => some 0
  | c :: cs =>
    if c = 'e' || c = 'E' then
      let (negative, digits) := signed cs
      (natOf? 10 digits).map fun n => if negative then -(n : Int) else n
    else none

/-- The double nearest to a decimal number: digits, a point at most among or around them, and an
exponent.  Numbers beyond every double have none. -/
def decimal? (cs : List Char) : Option Double :=
  let (negative, cs) := signed cs
  let whole := cs.takeWhile Char.isDigit
  let rest := cs.drop whole.length
  let (places, rest) := match rest with
    | '.' :: rest => (rest.takeWhile Char.isDigit, rest.dropWhile Char.isDigit)
    | _ => ([], rest)
  match natOf? 10 (whole ++ places), exponent? rest with
  | some digits, some exponent => Double.ofDecimal? negative digits (exponent - places.length)
  | _, _ => none

/-- Whether a scalar is infinite or no number at all, as numbers go. -/
def isNonFinite (s : String) : Bool :=
  [".inf", ".Inf", ".INF", "+.inf", "+.Inf", "+.INF", "-.inf", "-.Inf", "-.INF",
    ".nan", ".NaN", ".NAN"].contains s

/-- The number that a scalar stands for; JSON has null for those that are not finite. -/
def real? (s : String) : Option Json :=
  if isNonFinite s then some .null else (decimal? s.toList).map .float

/-- The truth value that a scalar stands for. -/
def truth? (s : String) : Option Bool :=
  if ["true", "True", "TRUE"].contains s then some true
  else if ["false", "False", "FALSE"].contains s then some false
  else none

/-- Whether a scalar stands for nothing. -/
def isNothing (s : String) : Bool := ["null", "Null", "NULL", "~"].contains s

/-- The value of an integer, which is refused between sixty-four and a hundred and twenty-eight
bits; there is none beyond that. -/
def wordOr? (n : Int) : Option (Option Json) :=
  if isWord n then some (some (.int n)) else if isDoubleWord n then some none else none

/-- What a plain scalar stands for. -/
def plainValue? (s : String) : Option Json :=
  if s.isEmpty || isNothing s then some .null
  else
    match truth? s, (integer? s.toList).bind wordOr?, hasNeedlessZero (signed s.toList).2 with
    | some b, _, _ => some (.bool b)
    | none, some v, _ => v
    | none, none, true => some (.string s)
    | none, none, false => some ((real? s).getD (.string s))

end Moderation.Yaml

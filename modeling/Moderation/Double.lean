/-!
# Binary floating-point numbers

A finite double as an integer multiple of a power of two, which is exact, and the double nearest to
a decimal numeral.  Nothing here computes with doubles: a number that is not an integer is only ever
looked at, to see whether it is integral after all and how it compares with a bound.
-/

namespace Moderation

/-- The number `mantissa · 2 ^ exponent`. -/
structure Double where
  /-- The multiple. -/
  mantissa : Int
  /-- The power of two. -/
  exponent : Int
  deriving DecidableEq, Repr, Inhabited

namespace Double

/-- A natural number to the power of another. -/
def power (base exponent : Nat) : Nat := Nat.pow base exponent

/-- Whether the number is an integer. -/
def isIntegral (x : Double) : Bool :=
  0 ≤ x.exponent || x.mantissa % power 2 (-x.exponent).toNat == 0

/-- Whether the number is at least an integer. -/
def atLeast (x : Double) (bound : Int) : Bool :=
  if 0 ≤ x.exponent then bound ≤ x.mantissa * power 2 x.exponent.toNat
  else bound * power 2 (-x.exponent).toNat ≤ x.mantissa

/-- A quotient of natural numbers rounded to the nearest integer, a tie to the even one. -/
def roundQuotient (n d : Nat) : Nat :=
  let q := n / d
  let r := n % d
  if 2 * r < d then q
  else if 2 * r > d then q + 1
  else q + q % 2

/-- The quotient of a positive number by a positive one, scaled down by a power of two. -/
def scaled (n d : Nat) (q : Int) : Nat × Nat :=
  if 0 ≤ q then (n, d * power 2 q.toNat) else (n * power 2 (-q).toNat, d)

/-- The double nearest to the quotient of two positive numbers, or nothing when every double is too
small.  The exponent is the one that gives the mantissa fifty-three digits, but never below that of
the smallest double. -/
def ofQuotient (n d : Nat) : Option (Nat × Int) :=
  let guess : Int := (Nat.log2 n : Int) - Nat.log2 d - 53
  let (a, b) := scaled n d guess
  let q := max (if power 2 53 ≤ a / b then guess + 1 else guess) (-1074)
  let (a, b) := scaled n d q
  let m := roundQuotient a b
  if power 2 53 * power 2 971 ≤ m * power 2 q.toNat then none else some (m, q)

/-- The double nearest to `digits · 10 ^ exponent`, negated where asked; nothing when it is too
large for any. -/
def ofDecimal? (negative : Bool) (digits : Nat) (exponent : Int) : Option Double :=
  let size : Int := (Nat.toDigits 10 digits).length + exponent
  if digits = 0 || size < -400 then some ⟨0, 0⟩
  else if 400 < size then none
  else
    let quotient := if 0 ≤ exponent then ofQuotient (digits * power 10 exponent.toNat) 1
      else ofQuotient digits (power 10 (-exponent).toNat)
    quotient.map fun (m, q) => ⟨if negative then -(m : Int) else m, q⟩

/-- The digits of a natural number, at least `width` of them. -/
def paddedDigits (width n : Nat) : List Char :=
  let ds := Nat.toDigits 10 n
  List.replicate (width - ds.length) '0' ++ ds

/-- The exact decimal expansion. -/
def chars (x : Double) : List Char :=
  let sign := if x.mantissa < 0 then ['-'] else []
  let m := x.mantissa.natAbs
  if 0 ≤ x.exponent then sign ++ Nat.toDigits 10 (m * power 2 x.exponent.toNat) ++ ['.', '0']
  else
    let places := (-x.exponent).toNat
    let scaled := m * power 5 places
    sign ++ Nat.toDigits 10 (scaled / power 10 places) ++
      '.' :: paddedDigits places (scaled % power 10 places)

end Double
end Moderation

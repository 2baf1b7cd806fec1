/-!
# RailWatch.Decimal.Binary64

Numbers in the binary format of 64 bits, in exact integer arithmetic.

A finite number is a sign, a **mantissa** of at most 53 bits and an exponent of two. Products and
quotients are worked out exactly and then rounded once, to the nearest number of the format and to
the even mantissa at a tie, by `Binary64.ofQuotient?`.

`Binary64.ofDecimal?` gives a number to a decimal significand and exponent. It rounds the
significand, scales it by a rounded power of ten and rounds again, so in rare cases the result is
not the nearest number but a neighbour of it.
-/

namespace RailWatch

/-- The number `± mantissa · 2 ^ exponent`. -/
structure Binary64 where
  negative : Bool
  mantissa : Nat
  exponent : Int
deriving DecidableEq

namespace Binary64

/-- The least exponent, that of the subnormal numbers. -/
def minExponent : Int := -1074

/-- The greatest exponent. -/
def maxExponent : Int := 971

/-- Zero. -/
def zero : Binary64 := ⟨false, 0, minExponent⟩

/-- Whether the number is a zero, of either sign. -/
def isZero (x : Binary64) : Bool := x.mantissa = 0

/-- The number of the same size with the sign given. -/
def withSign (negative : Bool) (x : Binary64) : Binary64 := ⟨negative, x.mantissa, x.exponent⟩

/-- `n · 2 ^ k` as a fraction of natural numbers, over a denominator `d`. -/
def scale (n d : Nat) (k : Int) : Nat × Nat :=
  if 0 ≤ k then (n * Nat.pow 2 k.toNat, d) else (n, d * Nat.pow 2 (-k).toNat)

/-- `n / d` rounded to a whole number, to the even one at a tie. -/
def roundEven (n d : Nat) : Nat :=
  let q := n / d
  let r := n % d
  if 2 * r < d then q
  else if 2 * r = d then q + q % 2
  else q + 1

/-- The number of the format nearest to `n / d`, unless it is beyond the greatest one. The exponent
is chosen so that the mantissa gets 53 bits, or fewer at the least exponent. -/
def ofQuotient? (n d : Nat) : Option Binary64 :=
  if n = 0 then some zero
  else
    let e := max ((n.log2 : Int) - d.log2 - 53) minExponent
    let (a, b) := scale n d (-e)
    let (a, b, e) := if a / b < Nat.pow 2 53 then (a, b, e) else (a, 2 * b, e + 1)
    let m := roundEven a b
    let (m, e) := if m < Nat.pow 2 53 then (m, e) else (Nat.pow 2 52, e + 1)
    if e ≤ maxExponent then some ⟨false, m, e⟩ else none

/-- The number of the format nearest to `n`. -/
def ofNat? (n : Nat) : Option Binary64 := ofQuotient? n 1

/-- The rounded product of the sizes of two numbers. -/
def mul? (x y : Binary64) : Option Binary64 :=
  let (n, d) := scale (x.mantissa * y.mantissa) 1 (x.exponent + y.exponent)
  ofQuotient? n d

/-- The rounded quotient of the sizes of two numbers. -/
def div? (x y : Binary64) : Option Binary64 :=
  let (n, d) := scale x.mantissa y.mantissa (x.exponent - y.exponent)
  ofQuotient? n d

/-- The number nearest to a power of ten. -/
def pow10? (k : Nat) : Option Binary64 := ofNat? (Nat.pow 10 k)

/-- The greatest power of ten of the format has this exponent. -/
def maxPow10 : Nat := 308

/-- Divides by the greatest power of ten so many times, then by ten to the power `k`; a number that
has become zero stays one. -/
def divPow10? (x : Binary64) (k : Nat) : Nat → Option Binary64
  | 0 => (pow10? k).bind x.div?
  | times + 1 =>
    if x.isZero then some x
    else ((pow10? maxPow10).bind x.div?).bind fun y => y.divPow10? k times

/-- The number that a decimal significand and exponent stand for, unless it is beyond the greatest
one. -/
def ofDecimal? (significand : Nat) (exponent : Int) : Option Binary64 := do
  let x ← ofNat? significand
  if 0 ≤ exponent then
    if exponent.toNat ≤ maxPow10 then (pow10? exponent.toNat).bind x.mul?
    else if x.isZero then some x
    else none
  else
    let k := (-exponent).toNat
    let times := (k - 1) / maxPow10
    x.divPow10? (k - times * maxPow10) times

example : ofDecimal? 25 (-1) = some ⟨false, 5629499534213120, -51⟩ := by decide
example : ofDecimal? 1 309 = none := by decide
example : (ofDecimal? 1 (-400)).map isZero = some true := by decide +kernel

end Binary64
end RailWatch

import RailWatch.Decimal.Binary64
import RailWatch.Text.Digits
/-!
# RailWatch.Decimal.Shortest

The shortest decimal text of a binary number.

All reals of an interval around a number round to it. `shortest` tries one digit, two digits, and
so on up to 17: for each count it looks at the two decimals of that many digits on either side of
the number, and takes the first that lies in the interval, the nearer one if both do. No decimal
with fewer digits reads back as the number, for if any point of a decimal grid lies in the interval
then one of the two points next to the number does.
-/

namespace RailWatch.Decimal

open Text

/-- The decimal `digits · 10 ^ exponent`. -/
structure Numeral where
  digits : Nat
  exponent : Int
deriving DecidableEq

/-- The interval of reals that round to a number, with the number: numerators over one
denominator. The ends belong to it if `closed`. -/
structure Interval where
  low : Nat
  value : Nat
  high : Nat
  denominator : Nat
  closed : Bool

/-- The interval around a number that is not zero. Half a unit of the mantissa lies on either side,
but only a quarter below a power of two, where the numbers below are twice as dense. -/
def Interval.around (x : Binary64) : Interval :=
  let below := if x.mantissa = Nat.pow 2 52 && Binary64.minExponent < x.exponent then 1 else 2
  let up := x.exponent.toNat
  let down := (-x.exponent).toNat
  { low := (4 * x.mantissa - below) * Nat.pow 2 up
    value := 4 * x.mantissa * Nat.pow 2 up
    high := (4 * x.mantissa + 2) * Nat.pow 2 up
    denominator := 4 * Nat.pow 2 down
    closed := x.mantissa % 2 = 0 }

/-- Whether `10 ^ k ≤ n / d`. -/
def powLe (k : Int) (n d : Nat) : Bool :=
  if 0 ≤ k then Nat.pow 10 k.toNat * d ≤ n else d ≤ n * Nat.pow 10 (-k).toNat

/-- The greatest `k` with `10 ^ k ≤ n / d`, from an estimate by the lengths in bits that is at most
one off. -/
def magnitude (n d : Nat) : Int :=
  let guess := ((n.log2 : Int) - d.log2) * 30103 / 100000
  if powLe (guess + 1) n d then guess + 1
  else if powLe guess n d then guess
  else guess - 1

/-- `c · 10 ^ k` compared with the numerator `n` over `d`: both sides as natural numbers. -/
def sides (c : Nat) (k : Int) (n d : Nat) : Nat × Nat :=
  if 0 ≤ k then (c * Nat.pow 10 k.toNat * d, n) else (c * d, n * Nat.pow 10 (-k).toNat)

/-- Whether a decimal lies in the interval. -/
def Interval.holds (i : Interval) (c : Nat) (k : Int) : Bool :=
  let (a, low) := sides c k i.low i.denominator
  let (b, high) := sides c k i.high i.denominator
  if i.closed then low ≤ a && b ≤ high else low < a && b < high

/-- The decimal with unit `10 ^ k` that stands for the interval, if one does: of the two next to
the value the one in the interval, the nearer one if both are, the even one at a tie. -/
def Interval.onGrid? (i : Interval) (k : Int) : Option Numeral :=
  let (unit, v) := sides 1 k i.value i.denominator
  let c := v / unit
  let down := i.holds c k
  let up := i.holds (c + 1) k
  let r := v % unit
  if down && up then
    some ⟨if 2 * r < unit || (2 * r = unit && c % 2 = 0) then c else c + 1, k⟩
  else if down then some ⟨c, k⟩
  else if up then some ⟨c + 1, k⟩
  else none

/-- The decimal without trailing zeros in its digits; `fuel` bounds their number. -/
def Numeral.strip : Nat → Numeral → Numeral
  | 0, d => d
  | fuel + 1, d =>
    if d.digits ≠ 0 && d.digits % 10 = 0 then strip fuel ⟨d.digits / 10, d.exponent + 1⟩ else d

/-- The shortest decimal that stands for a number that is not zero. With 17 digits one always
does. -/
def shortest (x : Binary64) : Numeral :=
  let i := Interval.around x
  let top := magnitude i.value i.denominator
  let found := (List.range 17).findSome? fun n : Nat => i.onGrid? (top - n)
  (found.getD ⟨0, 0⟩).strip 20

/-- Positional notation is used up to this power of ten, it not included. -/
def positionalBelow : Int := 16

/-- Positional notation is used from this power of ten on. -/
def positionalFrom : Int := -5

/-- A decimal in positional notation with at least one digit after the point, or with an exponent
and its sign if it is very large or very small. -/
def Numeral.text (d : Numeral) : String :=
  let ds := digitsOf d.digits
  let point : Int := d.exponent + ds.length
  if positionalFrom < point && point ≤ positionalBelow then
    if 0 ≤ d.exponent then
      String.ofList (ds ++ List.replicate d.exponent.toNat '0' ++ ['.', '0'])
    else if 0 < point then
      String.ofList (ds.take point.toNat ++ ['.'] ++ ds.drop point.toNat)
    else
      String.ofList (['0', '.'] ++ List.replicate (-point).toNat '0' ++ ds)
  else
    let e := point - 1
    let lead := ds.take 1
    let tail := if ds.length ≤ 1 then [] else '.' :: ds.drop 1
    String.ofList (lead ++ tail) ++ "e" ++ (if e < 0 then "-" else "+") ++ padded 1 e.natAbs

/-- A binary number in its shortest decimal text. -/
def text (x : Binary64) : String :=
  (if x.negative then "-" else "") ++ if x.isZero then "0.0" else (shortest x).text

example : shortest ⟨false, 5629499534213120, -51⟩ = ⟨25, -1⟩ := by decide +kernel
example : shortest ⟨false, 1, -1074⟩ = ⟨5, -324⟩ := by decide +kernel

end RailWatch.Decimal

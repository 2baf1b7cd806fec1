import RailWatch.Text.Digits
/-!
# RailWatch.Duration

Lengths of time that are never negative: the time between ticks and the time a fetch may take.
-/

namespace RailWatch

open Text

/-- A length of time. -/
structure Duration where
  nanos : Nat
deriving DecidableEq

namespace Duration

/-- A number of milliseconds. -/
def ofMillis (n : Nat) : Duration := ⟨n * 1000000⟩

/-- A number of seconds. -/
def ofSeconds (n : Nat) : Duration := ⟨n * 1000000000⟩

/-- The whole milliseconds of a duration. -/
def millis (d : Duration) : Nat := d.nanos / 1000000

/-- The longer of two durations. -/
def max (a b : Duration) : Duration := ⟨Nat.max a.nanos b.nanos⟩

/-- A number of units of `10 ^ places` nanoseconds, with the fraction in full but without trailing
zeros. -/
def inUnits (nanos places : Nat) (unit : String) : String :=
  let fraction := (padded places (nanos % Nat.pow 10 places)).toList
  let shown := (fraction.reverse.dropWhile (· = '0')).reverse
  padded 1 (nanos / Nat.pow 10 places) ++
    (if places = 0 || shown.isEmpty then "" else "." ++ String.ofList shown) ++ unit

/-- A duration in the largest unit of which it holds one: seconds, milliseconds, microseconds or
nanoseconds. -/
def text (d : Duration) : String :=
  if Nat.pow 10 9 ≤ d.nanos then inUnits d.nanos 9 "s"
  else if Nat.pow 10 6 ≤ d.nanos then inUnits d.nanos 6 "ms"
  else if Nat.pow 10 3 ≤ d.nanos then inUnits d.nanos 3 "µs"
  else inUnits d.nanos 0 "ns"

end Duration
end RailWatch

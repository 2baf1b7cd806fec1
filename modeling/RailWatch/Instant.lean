import RailWatch.Calendar.Clock
/-!
# RailWatch.Instant

A point on the time line, independent of any zone, and the **span** between two of them.

Instants compare by second and then by nanosecond, so a leap second, which is held as the second
before it with a billion or more nanoseconds, lies between its neighbours. Spans count leap
seconds only as far as the two instants themselves lie in one.
-/

namespace RailWatch

/-- A point on the time line. -/
structure Instant where
  /-- Seconds since the start of 1970 in universal time. -/
  seconds : Int
  /-- Nanoseconds within the second; from a billion on they lie in the leap second after it. -/
  nanos : Nat
deriving DecidableEq

/-- A signed length of time in nanoseconds. -/
structure Span where
  nanos : Int
deriving DecidableEq

namespace Instant

/-- A whole second. -/
def ofSeconds (seconds : Int) : Instant := ⟨seconds, 0⟩

/-- `a` comes before `b`. -/
protected def Lt (a b : Instant) : Prop :=
  a.seconds < b.seconds ∨ (a.seconds = b.seconds ∧ a.nanos < b.nanos)

/-- `a` does not come after `b`. -/
protected def Le (a b : Instant) : Prop :=
  a.seconds < b.seconds ∨ (a.seconds = b.seconds ∧ a.nanos ≤ b.nanos)

instance : LT Instant := ⟨Instant.Lt⟩
instance : LE Instant := ⟨Instant.Le⟩

theorem lt_def {a b : Instant} :
    a < b ↔ a.seconds < b.seconds ∨ (a.seconds = b.seconds ∧ a.nanos < b.nanos) := Iff.rfl

theorem le_def {a b : Instant} :
    a ≤ b ↔ a.seconds < b.seconds ∨ (a.seconds = b.seconds ∧ a.nanos ≤ b.nanos) := Iff.rfl

instance (a b : Instant) : Decidable (a < b) :=
  inferInstanceAs (Decidable (_ ∨ _))

instance (a b : Instant) : Decidable (a ≤ b) :=
  inferInstanceAs (Decidable (_ ∨ _))

@[simp] theorem le_refl (a : Instant) : a ≤ a := Or.inr ⟨rfl, Nat.le_refl _⟩

theorem le_trans {a b c : Instant} (hab : a ≤ b) (hbc : b ≤ c) : a ≤ c := by
  simp only [le_def] at *
  omega

theorem le_antisymm {a b : Instant} (hab : a ≤ b) (hba : b ≤ a) : a = b := by
  cases a
  cases b
  simp only [le_def, Instant.mk.injEq] at *
  omega

theorem not_lt {a b : Instant} : ¬a < b ↔ b ≤ a := by
  simp only [lt_def, le_def]
  omega

theorem not_le {a b : Instant} : ¬a ≤ b ↔ b < a := by
  simp only [lt_def, le_def]
  omega

theorem le_of_lt {a b : Instant} (h : a < b) : a ≤ b := by
  simp only [lt_def, le_def] at *
  omega

theorem lt_of_lt_of_le {a b c : Instant} (hab : a < b) (hbc : b ≤ c) : a < c := by
  simp only [lt_def, le_def] at *
  omega

theorem lt_of_le_of_lt {a b c : Instant} (hab : a ≤ b) (hbc : b < c) : a < c := by
  simp only [lt_def, le_def] at *
  omega

theorem lt_of_le_of_ne {a b : Instant} (h : a ≤ b) (hne : a ≠ b) : a < b := by
  rcases h with hsec | ⟨hsec, hnanos⟩
  · exact .inl hsec
  · refine .inr ⟨hsec, Nat.lt_of_le_of_ne hnanos fun heq => hne ?_⟩
    cases a
    cases b
    simp_all

/-- A moment of a leap second. -/
def isLeap (i : Instant) : Bool := nanosPerSecond ≤ i.nanos

/-- The first second that the library handles: the start, in universal time, of its first day. -/
def firstSecond : Int := Date.first.day * secondsPerDay

/-- The last second that the library handles: the end, in universal time, of its last day. -/
def lastSecond : Int := Date.last.day * secondsPerDay + (secondsPerDay - 1)

/-- An instant that the library handles. -/
def inRange (i : Instant) : Bool :=
  firstSecond ≤ i.seconds && i.seconds ≤ lastSecond

/-- The time of day of an instant in universal time. -/
def secondOfDay (i : Instant) : Int := i.seconds % secondsPerDay

/-- The span from `b` to `a`. The leap second of the one with the earlier time of day, in universal
time, lies between the two and is counted in; whole days are always 86400 seconds. -/
def since (a b : Instant) : Span :=
  let leap : Int :=
    if b.secondOfDay < a.secondOfDay && b.isLeap then 1
    else if a.secondOfDay < b.secondOfDay && a.isLeap then -1
    else 0
  ⟨(a.seconds - b.seconds + leap) * nanosPerSecond + ((a.nanos : Int) - b.nanos)⟩

/-- Away from leap seconds a span is the plain difference. -/
theorem since_of_not_leap {a b : Instant} (ha : a.isLeap = false) (hb : b.isLeap = false) :
    a.since b = ⟨(a.seconds - b.seconds) * nanosPerSecond + ((a.nanos : Int) - b.nanos)⟩ := by
  simp [since, ha, hb]

end Instant

namespace Span

instance : LT Span := ⟨fun a b => a.nanos < b.nanos⟩
instance : LE Span := ⟨fun a b => a.nanos ≤ b.nanos⟩

theorem lt_def {a b : Span} : a < b ↔ a.nanos < b.nanos := Iff.rfl
theorem le_def {a b : Span} : a ≤ b ↔ a.nanos ≤ b.nanos := Iff.rfl

instance (a b : Span) : Decidable (a < b) := inferInstanceAs (Decidable (a.nanos < b.nanos))
instance (a b : Span) : Decidable (a ≤ b) := inferInstanceAs (Decidable (a.nanos ≤ b.nanos))

/-- The greatest number of milliseconds of a span, the greatest signed 64-bit number. -/
def maxMillis : Int := 9223372036854775807

/-- The longest span. -/
def longest : Span := ⟨maxMillis * 1000000⟩

/-- A span of whole seconds. -/
def ofSeconds (n : Int) : Span := ⟨n * nanosPerSecond⟩

/-- A span of whole minutes. A count that no span can hold, of either sign, gives the longest
span. -/
def ofMinutes (n : Int) : Span :=
  if -maxMillis ≤ n * 60000 && n * 60000 ≤ maxMillis then ofSeconds (n * 60) else longest

/-- The whole milliseconds of a span, cut off towards zero. -/
def millis (s : Span) : Int := s.nanos.tdiv 1000000

example : (ofMinutes 30).millis = 1800000 := by decide
example : (ofMinutes (-9223372036854775808)).millis = maxMillis := by decide

end Span
end RailWatch

import RailWatch.Calendar.Date
/-!
# RailWatch.Calendar.Clock

A time of day and, with a date, a **wall-clock reading**: what a station clock shows.

A leap second is held as the second before it with a billion or more nanoseconds, so that it
comes after every moment of that second and before the next one, and times of day compare by
second and then by nanosecond.
-/

namespace RailWatch

open Text

/-- The number of nanoseconds of a second. Nanosecond counts from here on mark a leap second. -/
def nanosPerSecond : Nat := 1000000000

/-- The number of seconds of a day, leap seconds not counted. -/
def secondsPerDay : Nat := 86400

/-- A time of day. -/
@[ext]
structure Clock where
  /-- Seconds since midnight. -/
  second : Nat
  /-- Nanoseconds within the second; from a billion on they lie in the leap second after it. -/
  nanos : Nat
  second_lt : second < secondsPerDay
deriving DecidableEq

namespace Clock

/-- The time of day with these hours, minutes and seconds. Second 60 is the leap second after
second 59. -/
def ofHms? (hour minute second : Nat) : Option Clock :=
  if h : hour < 24 ∧ minute < 60 ∧ second < 60 then
    some ⟨hour * 3600 + minute * 60 + second, 0, by unfold secondsPerDay; omega⟩
  else if h : hour < 24 ∧ minute < 60 ∧ second = 60 then
    some ⟨hour * 3600 + minute * 60 + 59, nanosPerSecond, by unfold secondsPerDay; omega⟩
  else none

/-- The hour, 0 to 23. -/
def hour (c : Clock) : Nat := c.second / 3600

/-- The minute of the hour, 0 to 59. -/
def minute (c : Clock) : Nat := c.second / 60 % 60

/-- The second of the minute as it is shown: the leap second counts one further. -/
def shownSecond (c : Clock) : Nat :=
  c.second % 60 + if nanosPerSecond ≤ c.nanos then 1 else 0

/-- A moment of a leap second. -/
def isLeap (c : Clock) : Bool := nanosPerSecond ≤ c.nanos

/-- Whether one time of day comes before another. -/
def before (a b : Clock) : Bool :=
  a.second < b.second || (a.second = b.second && a.nanos < b.nanos)

/-- A time of day as `HH:MM`. -/
def shortText (c : Clock) : String :=
  padded 2 c.hour ++ ":" ++ padded 2 c.minute

/-- A time of day as `HH:MM:SS`. -/
def text (c : Clock) : String :=
  c.shortText ++ ":" ++ padded 2 c.shownSecond

theorem before_iff {a b : Clock} :
    a.before b = true ↔ a.second < b.second ∨ (a.second = b.second ∧ a.nanos < b.nanos) := by
  simp [before]

theorem before_irrefl (a : Clock) : a.before a = false := by
  simp [before]

theorem hour_lt (c : Clock) : c.hour < 24 := by
  have := c.second_lt
  unfold secondsPerDay at this
  unfold hour
  omega

end Clock

/-- What a clock on the wall shows: a day and a time of day. -/
structure Reading where
  date : Date
  clock : Clock
deriving DecidableEq

namespace Reading

/-- The seconds from the start of 1 January 1970 to the reading, as that wall counts them. -/
def seconds (r : Reading) : Int :=
  r.date.day * secondsPerDay + r.clock.second

/-- The reading that lies `seconds` and `nanos` after the start of 1 January 1970. -/
def ofSeconds (seconds : Int) (nanos : Nat) : Reading :=
  ⟨⟨seconds / secondsPerDay⟩, ⟨(seconds % secondsPerDay).toNat, nanos, by
    unfold secondsPerDay; omega⟩⟩

/-- A reading as `YYYY-MM-DD HH:MM:SS`. -/
def text (r : Reading) : String :=
  r.date.text ++ " " ++ r.clock.text

@[simp] theorem seconds_ofSeconds (s : Int) (n : Nat) : (ofSeconds s n).seconds = s := by
  simp only [seconds, ofSeconds, secondsPerDay]
  omega

@[simp] theorem nanos_ofSeconds (s : Int) (n : Nat) : (ofSeconds s n).clock.nanos = n := rfl

/-- A reading is its seconds and its nanoseconds. -/
@[simp] theorem ofSeconds_seconds (r : Reading) : ofSeconds r.seconds r.clock.nanos = r := by
  obtain ⟨⟨d⟩, ⟨s, n, h⟩⟩ := r
  unfold secondsPerDay at h
  simp only [seconds, ofSeconds, secondsPerDay, Reading.mk.injEq, Date.mk.injEq]
  refine ⟨by omega, Clock.ext ?_ rfl⟩
  show ((d * 86400 + s) % 86400 : Int).toNat = s
  omega

end Reading
end RailWatch

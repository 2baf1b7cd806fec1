import RailWatch.Text.Digits
/-!
# RailWatch.Calendar.Date

A calendar day of the proleptic Gregorian calendar, held as its distance in days from
1 January 1970. Days follow each other as integers do, so "the next day" and "the same day" need
no calendar arithmetic; the year, month and day of month are worked out when a date is read or
written.

* `Date.ofCivil?` builds a date from year, month and day of month, if there is such a day;
* `Date.civil` is the way back;
* `Date.inRange` marks the days that the library handles, -262143-01-01 to +262142-12-31;
* `Date.text` writes a date as `YYYY-MM-DD`.
-/

namespace RailWatch

open Text

/-- A calendar day, as the number of days since 1 January 1970. -/
structure Date where
  day : Int
deriving DecidableEq

namespace Date

/-- A Gregorian leap year. -/
def isLeapYear (year : Int) : Bool :=
  year % 4 = 0 && (year % 100 ≠ 0 || year % 400 = 0)

/-- The number of days of a month. -/
def daysInMonth (year : Int) (month : Nat) : Nat :=
  if month = 2 then
    if isLeapYear year then 29 else 28
  else if month = 4 || month = 6 || month = 9 || month = 11 then 30
  else 31

/-- The day number of a civil date. Years are counted from March, so that the leap day is the last
day of its year, and grouped in eras of 400 years, which all have 146097 days. -/
def dayOfCivil (year : Int) (month day : Nat) : Int :=
  let y := if month ≤ 2 then year - 1 else year
  let era := y / 400
  let yearOfEra := y % 400
  let monthFromMarch : Int := (month + 9) % 12
  let dayOfYear := (153 * monthFromMarch + 2) / 5 + day - 1
  let dayOfEra := yearOfEra * 365 + yearOfEra / 4 - yearOfEra / 100 + dayOfYear
  era * 146097 + dayOfEra - 719468

/-- Year, month and day of month of a day number: the steps of `dayOfCivil` in reverse. -/
def civilOfDay (n : Int) : Int × Nat × Nat :=
  let z := n + 719468
  let era := z / 146097
  let dayOfEra := z % 146097
  let yearOfEra := (dayOfEra - dayOfEra / 1460 + dayOfEra / 36524 - dayOfEra / 146096) / 365
  let dayOfYear := dayOfEra - (365 * yearOfEra + yearOfEra / 4 - yearOfEra / 100)
  let monthFromMarch := (5 * dayOfYear + 2) / 153
  let day := dayOfYear - (153 * monthFromMarch + 2) / 5 + 1
  let month := if monthFromMarch < 10 then monthFromMarch + 3 else monthFromMarch - 9
  let year := yearOfEra + era * 400
  (if month ≤ 2 then year + 1 else year, month.toNat, day.toNat)

/-- The first day that the library handles, 1 January of the year -262143. -/
def first : Date := ⟨-96465292⟩

/-- The last day that the library handles, 31 December of the year 262142. -/
def last : Date := ⟨95026236⟩

/-- A day that the library handles. -/
def inRange (d : Date) : Bool :=
  first.day ≤ d.day && d.day ≤ last.day

/-- The day with this year, month and day of month, if there is one and it is in range. -/
def ofCivil? (year : Int) (month day : Nat) : Option Date :=
  if 1 ≤ month && month ≤ 12 && 1 ≤ day && day ≤ daysInMonth year month then
    let d : Date := ⟨dayOfCivil year month day⟩
    if d.inRange then some d else none
  else none

/-- Year, month and day of month. -/
def civil (d : Date) : Int × Nat × Nat :=
  civilOfDay d.day

/-- The following day. -/
def next (d : Date) : Date :=
  ⟨d.day + 1⟩

/-- A year in four digits; outside 0 to 9999 with its sign and at least four digits. -/
def yearText (year : Int) : String :=
  if 0 ≤ year && year ≤ 9999 then padded 4 year.toNat
  else (if year < 0 then "-" else "+") ++ padded 4 year.natAbs

/-- A date as `YYYY-MM-DD`. -/
def text (d : Date) : String :=
  let (year, month, day) := d.civil
  yearText year ++ "-" ++ padded 2 month ++ "-" ++ padded 2 day

example : dayOfCivil 1970 1 1 = 0 := by decide
example : dayOfCivil (-262143) 1 1 = first.day := by decide
example : dayOfCivil 262142 12 31 = last.day := by decide
example : civilOfDay 19797 = (2024, 3, 15) := by decide
example : ofCivil? 2023 2 29 = none := by decide

theorem inRange_iff {d : Date} : d.inRange = true ↔ first.day ≤ d.day ∧ d.day ≤ last.day := by
  simp [inRange]

/-- A date that was built is in range. -/
theorem inRange_of_ofCivil? {year : Int} {month day : Nat} {d : Date}
    (h : ofCivil? year month day = some d) : d.inRange = true := by
  unfold ofCivil? at h
  split at h
  · simp only [Option.ite_none_right_eq_some, Option.some.injEq] at h
    obtain ⟨hr, rfl⟩ := h
    exact hr
  · simp at h

theorem eq_iff_day {a b : Date} : a = b ↔ a.day = b.day := by
  cases a
  cases b
  simp

@[simp] theorem next_day (d : Date) : d.next.day = d.day + 1 := rfl

end Date
end RailWatch

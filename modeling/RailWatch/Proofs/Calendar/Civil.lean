import Mathlib.Tactic.IntervalCases
import RailWatch.Calendar.Date
/-!
# RailWatch.Proofs.Calendar.Civil

The days of the calendar and their numbers.

Numbers are worked out in years that begin in March, so that the leap day is the last day of a year
and the lengths of the months follow one rule. A `MarchDay` is a day in that count: an era of 400
years, a year of the era, a month and a day. It has a number and it has a civil date, and both can be
worked out from each other by way of it. Every number is that of a valid one, and every civil date is
that of a valid one. So the two ways between civil dates and numbers are inverse to each other:
`civilOfDay_dayOfCivil` and `dayOfCivil_civilOfDay`.
-/

namespace RailWatch

/-- A day in a count of years that begin in March. -/
structure MarchDay where
  era : Int
  /-- The year within the era of 400 years. -/
  year : Int
  /-- The month, with March as 0. -/
  month : Int
  day : Int

namespace MarchDay

/-! ### Months of a year -/

/-- The number of days of a year before a month. -/
def monthStart (month : Int) : Int := (153 * month + 2) / 5

/-- The month has such a day; the last month has 29 days. -/
structure InMonth (month day : Int) : Prop where
  month_nonneg : 0 ≤ month
  month_lt : month < 12
  day_pos : 1 ≤ day
  day_le : day ≤ 31
  short : month = 1 ∨ month = 3 ∨ month = 6 ∨ month = 8 → day ≤ 30
  last : month = 11 → day ≤ 29

theorem InMonth.month_eq {month day : Int} (h : InMonth month day) :
    (5 * (monthStart month + day - 1) + 2) / 153 = month := by
  obtain ⟨h0, h12, hpos, hle, hshort, hlast⟩ := h
  unfold monthStart
  interval_cases month <;> omega

/-- Only the leap day is a 366th one. -/
theorem InMonth.dayOfYear_le {month day : Int} (h : InMonth month day) :
    0 ≤ monthStart month + day - 1 ∧ monthStart month + day - 1 ≤ 365 ∧
      (monthStart month + day - 1 = 365 → month = 11 ∧ day = 29) := by
  obtain ⟨h0, h12, hpos, hle, hshort, hlast⟩ := h
  unfold monthStart
  interval_cases month <;> omega

theorem exists_inMonth {dayOfYear : Int} (h0 : 0 ≤ dayOfYear) (h365 : dayOfYear ≤ 365) :
    ∃ month day, InMonth month day ∧ dayOfYear = monthStart month + day - 1 := by
  have hmonth : 0 ≤ (5 * dayOfYear + 2) / 153 ∧ (5 * dayOfYear + 2) / 153 < 12 := by omega
  obtain ⟨hlow, hhigh⟩ := hmonth
  refine ⟨(5 * dayOfYear + 2) / 153, dayOfYear - monthStart ((5 * dayOfYear + 2) / 153) + 1, ?_,
    by omega⟩
  -- in each month it is the bounds of the quotient that bound the day
  generalize hm : (5 * dayOfYear + 2) / 153 = month at hlow hhigh ⊢
  unfold monthStart
  interval_cases month <;> constructor <;> omega

/-! ### Years of an era -/

/-- The number of days of an era before a year. -/
def yearStart (year : Int) : Int := year * 365 + year / 4 - year / 100

/-- The year of an era has such a day, counted from 0. The last one is the leap day, which belongs to
the following year of the civil calendar. -/
structure InYear (year day : Int) : Prop where
  year_nonneg : 0 ≤ year
  year_lt : year < 400
  day_nonneg : 0 ≤ day
  day_le : day ≤ 365
  long : day = 365 → year % 4 = 3 ∧ (year % 100 ≠ 99 ∨ year = 399)

/-- In three centuries of an era there is one day less than in the fourth. -/
theorem century_eq {century rest : Int} (h0 : 0 ≤ century) (h4 : century < 4) (hpos : 0 ≤ rest)
    (hle : rest ≤ 36524) (hlong : rest = 36524 → century = 3) :
    (36524 * century + rest) / 36524 - (36524 * century + rest) / 146096 = century := by
  rcases Int.lt_or_eq_of_le hle with hlt | heq <;> omega

/-- The year of a day of an era, worked out from a century, four years of it and a year of these. -/
theorem year_of_parts {century four year day : Int} (hc : 0 ≤ century ∧ century < 4)
    (hf : 0 ≤ four ∧ four < 25) (hy : 0 ≤ year ∧ year < 4) (hd : 0 ≤ day ∧ day ≤ 365)
    (hlong : day = 365 → year = 3 ∧ (four ≠ 24 ∨ century = 3)) {dayOfEra : Int}
    (hera : dayOfEra = 36524 * century + (1461 * four + 365 * year + day)) :
    (dayOfEra - dayOfEra / 1460 + dayOfEra / 36524 - dayOfEra / 146096) / 365 =
      100 * century + 4 * four + year := by
  have hcentury : dayOfEra / 36524 - dayOfEra / 146096 = century := by
    rw [hera]
    apply century_eq <;> omega
  have hfour : dayOfEra / 1460 =
      25 * century + four + (24 * century + four + 365 * year + day) / 1460 := by
    rw [hera]
    omega
  -- one leap day too many is taken away, but only where there is a day left to take it from
  generalize hexcess : 24 * century + four + 365 * year + day = excess at hfour
  have htaken : excess / 1460 = 0 ∧ day < 365 ∨ excess / 1460 = 1 ∧ 1 ≤ day := by omega
  omega

theorem InYear.year_eq {year day : Int} (h : InYear year day) {dayOfEra : Int}
    (hera : dayOfEra = yearStart year + day) :
    (dayOfEra - dayOfEra / 1460 + dayOfEra / 36524 - dayOfEra / 146096) / 365 = year := by
  obtain ⟨h0, h400, hpos, hle, hlong⟩ := h
  have hcentury : 0 ≤ year / 100 ∧ year / 100 < 4 := by omega
  have hfour : 0 ≤ year % 100 / 4 ∧ year % 100 / 4 < 25 := by omega
  have hyear : 0 ≤ year % 4 ∧ year % 4 < 4 := by omega
  have hparts := year_of_parts hcentury hfour hyear ⟨hpos, hle⟩ (by omega)
    (show dayOfEra = _ by unfold yearStart at hera; omega)
  omega

/-- The days of an era are those of its years. -/
theorem InYear.dayOfEra_lt {year day : Int} (h : InYear year day) :
    0 ≤ yearStart year + day ∧ yearStart year + day < 146097 := by
  obtain ⟨h0, h400, hpos, hle, hlong⟩ := h
  unfold yearStart
  omega

/-- How a number falls into parts of one size, of which the last one takes what is left over. -/
theorem exists_part (size count : Int) {n : Int} (hsize : 0 < size) (hcount : 0 < count) (h0 : 0 ≤ n)
    (hn : n ≤ size * count) :
    ∃ part rest, 0 ≤ part ∧ part < count ∧ 0 ≤ rest ∧ rest ≤ size ∧
      (rest = size → part = count - 1) ∧ n = size * part + rest := by
  rcases Int.lt_or_eq_of_le hn with hlt | rfl
  · have hrest := Int.emod_lt_of_pos n hsize
    refine ⟨n / size, n % size, Int.ediv_nonneg h0 (by omega), Int.ediv_lt_of_lt_mul hsize ?_,
      Int.emod_nonneg n (by omega), by omega, by omega, (Int.mul_ediv_add_emod n size).symm⟩
    rwa [Int.mul_comm]
  · refine ⟨count - 1, size, by omega, by omega, by omega, Int.le_refl _, fun _ => rfl, ?_⟩
    rw [Int.mul_sub, Int.mul_one]
    omega

/-- Every day of an era belongs to one of its years. -/
theorem exists_inYear {dayOfEra : Int} (h0 : 0 ≤ dayOfEra) (hlt : dayOfEra < 146097) :
    ∃ year day, InYear year day ∧ dayOfEra = yearStart year + day := by
  obtain ⟨century, rest1, hc0, hc4, hr10, hr1, hlong, rfl⟩ :=
    exists_part 36524 4 (by decide) (by decide) h0 (by omega)
  obtain ⟨four, rest2, hf0, hf25, hr20, hr2, hshort, rfl⟩ :=
    exists_part 1461 25 (by decide) (by decide) hr10 (by omega)
  obtain ⟨year, day, hy0, hy4, hd0, hd, hlast, rfl⟩ :=
    exists_part 365 4 (by decide) (by decide) hr20 (by omega)
  have hhundred : (100 * century + 4 * four + year) / 100 = century := by omega
  have hfourth : (100 * century + 4 * four + year) / 4 = 25 * century + four := by omega
  refine ⟨100 * century + 4 * four + year, day, ⟨by omega, by omega, hd0, by omega, ?_⟩, ?_⟩
  · intro hday
    have hyear := hlast hday
    omega
  · unfold yearStart
    rw [hhundred, hfourth]
    omega

/-! ### Number and civil date -/

/-- A day that its month has in its year. -/
structure Valid (d : MarchDay) : Prop where
  inMonth : InMonth d.month d.day
  inYear : InYear d.year (monthStart d.month + d.day - 1)

/-- The number of the day. -/
def number (d : MarchDay) : Int :=
  d.era * 146097 + (yearStart d.year + (monthStart d.month + d.day - 1)) - 719468

/-- Year, month and day of month of the civil calendar. -/
def civil (d : MarchDay) : Int × Nat × Nat :=
  let year := d.year + d.era * 400
  if d.month < 10 then (year, (d.month + 3).toNat, d.day.toNat)
  else (year + 1, (d.month - 9).toNat, d.day.toNat)

/-- The day of a civil date. -/
def ofCivil (year : Int) (month day : Nat) : MarchDay :=
  let y := if month ≤ 2 then year - 1 else year
  ⟨y / 400, y % 400, (month + 9) % 12, day⟩

theorem number_ofCivil (year : Int) (month day : Nat) :
    (ofCivil year month day).number = Date.dayOfCivil year month day := rfl

theorem Valid.civilOfDay_number {d : MarchDay} (h : d.Valid) :
    Date.civilOfDay d.number = d.civil := by
  obtain ⟨hlow, hlt⟩ := h.inYear.dayOfEra_lt
  have hera : (d.number + 719468) / 146097 = d.era := by
    unfold number
    omega
  have hday : (d.number + 719468) % 146097 =
      yearStart d.year + (monthStart d.month + d.day - 1) := by
    unfold number
    omega
  have hyear := h.inYear.year_eq rfl
  have hstart : yearStart d.year = 365 * d.year + d.year / 4 - d.year / 100 := by
    unfold yearStart
    omega
  have hrest : yearStart d.year + (monthStart d.month + d.day - 1) -
      (365 * d.year + d.year / 4 - d.year / 100) = monthStart d.month + d.day - 1 := by
    omega
  have hback : monthStart d.month + d.day - 1 - (153 * d.month + 2) / 5 + 1 = d.day := by
    unfold monthStart
    omega
  simp only [Date.civilOfDay, hera, hday, hyear, hrest, h.inMonth.month_eq, hback, civil]
  have hbounds := h.inMonth.month_nonneg
  by_cases hmonth : d.month < 10
  · rw [if_pos hmonth, if_pos hmonth, if_neg (by omega)]
  · rw [if_neg hmonth, if_neg hmonth, if_pos (by have := h.inMonth.month_lt; omega)]

/-- Every number is that of a day. -/
theorem exists_number_eq (n : Int) : ∃ d : MarchDay, d.Valid ∧ d.number = n := by
  obtain ⟨year, dayOfYear, hyear, hera⟩ :=
    exists_inYear (show 0 ≤ (n + 719468) % 146097 by omega) (by omega)
  obtain ⟨month, day, hmonth, rfl⟩ := exists_inMonth hyear.day_nonneg hyear.day_le
  refine ⟨⟨(n + 719468) / 146097, year, month, day⟩, ⟨hmonth, hyear⟩, ?_⟩
  simp only [number, ← hera]
  omega

end MarchDay

namespace Date

/-- The month of the year has such a day. -/
structure IsCivil (year : Int) (month day : Nat) : Prop where
  month_pos : 1 ≤ month
  month_le : month ≤ 12
  day_pos : 1 ≤ day
  day_le : day ≤ daysInMonth year month

theorem isLeapYear_iff {year : Int} :
    isLeapYear year = true ↔ year % 4 = 0 ∧ (year % 100 ≠ 0 ∨ year % 400 = 0) := by
  simp [isLeapYear]

theorem le_daysInMonth_iff {year : Int} {month day : Nat} :
    day ≤ daysInMonth year month ↔ day ≤ 31 ∧
      (month = 4 ∨ month = 6 ∨ month = 9 ∨ month = 11 → day ≤ 30) ∧
      (month = 2 → day ≤ 29 ∧ (day = 29 → isLeapYear year = true)) := by
  unfold daysInMonth
  by_cases hfeb : month = 2
  · rw [if_pos hfeb]
    by_cases hleap : isLeapYear year = true
    · rw [if_pos hleap]
      refine ⟨fun h => ⟨by omega, by omega, fun _ => ⟨h, fun _ => hleap⟩⟩, ?_⟩
      intro ⟨_, _, h⟩
      exact (h hfeb).1
    · rw [if_neg hleap]
      refine ⟨fun h => ⟨by omega, by omega, fun _ => ⟨by omega, by omega⟩⟩, ?_⟩
      intro ⟨_, _, h⟩
      have hne : day ≠ 29 := fun h29 => hleap ((h hfeb).2 h29)
      have := (h hfeb).1
      omega
  · simp only [if_neg hfeb, Bool.or_eq_true, decide_eq_true_eq]
    by_cases hshort : ((month = 4 ∨ month = 6) ∨ month = 9) ∨ month = 11
    · rw [if_pos hshort]
      omega
    · rw [if_neg hshort]
      omega

end Date

namespace MarchDay

open Date

theorem Valid.isCivil {d : MarchDay} (h : d.Valid) :
    IsCivil d.civil.1 d.civil.2.1 d.civil.2.2 := by
  obtain ⟨era, year, month, day⟩ := d
  obtain ⟨⟨h0, h12, hpos, hle, hshort, hlast⟩, ⟨hyear0, -, -, -, hlong⟩⟩ := h
  simp only at h0 h12 hpos hle hshort hlast hyear0 hlong
  unfold civil
  by_cases hmonth : month < 10
  · simp only [if_pos hmonth]
    refine ⟨by omega, by omega, by omega, le_daysInMonth_iff.mpr ⟨by omega, by omega, ?_⟩⟩
    intro hfeb
    omega
  · simp only [if_neg hmonth]
    refine ⟨by omega, by omega, by omega, le_daysInMonth_iff.mpr ⟨by omega, by omega, ?_⟩⟩
    intro hfeb
    obtain rfl : month = 11 := by omega
    refine ⟨by omega, fun hday => isLeapYear_iff.mpr ?_⟩
    have hleap := hlong (by unfold monthStart; omega)
    omega

theorem valid_ofCivil {year : Int} {month day : Nat} (h : IsCivil year month day) :
    (ofCivil year month day).Valid := by
  obtain ⟨hlow, hhigh, hpos, hle⟩ := h
  obtain ⟨hle, hshort, hfeb⟩ := le_daysInMonth_iff.mp hle
  have hmonth : InMonth ((month + 9) % 12) day := by
    constructor <;> omega
  obtain ⟨hday0, hday365, hleapDay⟩ := hmonth.dayOfYear_le
  refine ⟨hmonth, Int.emod_nonneg _ (by decide), Int.emod_lt_of_pos _ (by decide), hday0, hday365,
    ?_⟩
  intro hlast
  obtain ⟨hfebruary, h29⟩ := hleapDay hlast
  have hmonth2 : month = 2 := by omega
  have hleap := isLeapYear_iff.mp ((hfeb hmonth2).2 (by omega))
  simp only [ofCivil, if_pos (Nat.le_of_eq hmonth2)]
  omega

theorem civil_ofCivil {year : Int} {month day : Nat} (h : IsCivil year month day) :
    (ofCivil year month day).civil = (year, month, day) := by
  have hlow := h.month_pos
  have hhigh := h.month_le
  unfold ofCivil civil
  by_cases hmonth : month ≤ 2
  · simp only [if_pos hmonth]
    rw [if_neg (by omega)]
    simp only [Prod.mk.injEq]
    omega
  · simp only [if_neg hmonth]
    rw [if_pos (by omega)]
    simp only [Prod.mk.injEq]
    omega

theorem Valid.ofCivil_civil {d : MarchDay} (h : d.Valid) :
    ofCivil d.civil.1 d.civil.2.1 d.civil.2.2 = d := by
  obtain ⟨era, year, month, day⟩ := d
  obtain ⟨⟨h0, h12, hpos, -, -, -⟩, ⟨hyear0, hyear, -, -, -⟩⟩ := h
  simp only at h0 h12 hpos hyear0 hyear
  unfold civil
  by_cases hmonth : month < 10
  · simp only [if_pos hmonth, ofCivil]
    rw [if_neg (by omega)]
    simp only [MarchDay.mk.injEq]
    omega
  · simp only [if_neg hmonth, ofCivil]
    rw [if_pos (by omega)]
    simp only [MarchDay.mk.injEq]
    omega

end MarchDay

namespace Date

open MarchDay

/-- The number of a civil date gives the date back. -/
theorem civilOfDay_dayOfCivil {year : Int} {month day : Nat} (h : IsCivil year month day) :
    civilOfDay (dayOfCivil year month day) = (year, month, day) := by
  rw [← number_ofCivil, (valid_ofCivil h).civilOfDay_number, civil_ofCivil h]

/-- The civil date of a number is a day of the calendar. -/
theorem isCivil_civilOfDay (n : Int) :
    IsCivil (civilOfDay n).1 (civilOfDay n).2.1 (civilOfDay n).2.2 := by
  obtain ⟨d, hd, rfl⟩ := exists_number_eq n
  rw [hd.civilOfDay_number]
  exact hd.isCivil

/-- The civil date of a number gives the number back. -/
theorem dayOfCivil_civilOfDay (n : Int) :
    dayOfCivil (civilOfDay n).1 (civilOfDay n).2.1 (civilOfDay n).2.2 = n := by
  obtain ⟨d, hd, rfl⟩ := exists_number_eq n
  rw [hd.civilOfDay_number, ← number_ofCivil, hd.ofCivil_civil]

theorem isCivil_iff {year : Int} {month day : Nat} :
    IsCivil year month day ↔ 1 ≤ month ∧ month ≤ 12 ∧ 1 ≤ day ∧ day ≤ daysInMonth year month :=
  ⟨fun ⟨h1, h12, hpos, hle⟩ => ⟨h1, h12, hpos, hle⟩,
    fun ⟨h1, h12, hpos, hle⟩ => ⟨h1, h12, hpos, hle⟩⟩

/-- A date is built from each day of the calendar that is in range, and from nothing else; and it
shows the year, month and day of month that it was built from. -/
theorem ofCivil?_eq_some_iff {year : Int} {month day : Nat} {d : Date} :
    ofCivil? year month day = some d ↔
      IsCivil year month day ∧ d.inRange = true ∧ d.civil = (year, month, day) := by
  have hcheck : (1 ≤ month && month ≤ 12 && 1 ≤ day && day ≤ daysInMonth year month) = true ↔
      IsCivil year month day := by
    simp [isCivil_iff, and_assoc]
  unfold ofCivil? civil
  by_cases hcivil : IsCivil year month day
  · rw [if_pos (hcheck.mpr hcivil)]
    simp only [Option.ite_none_right_eq_some, Option.some.injEq]
    constructor
    · intro ⟨hrange, hd⟩
      subst hd
      exact ⟨hcivil, hrange, civilOfDay_dayOfCivil hcivil⟩
    · intro ⟨_, hrange, hd⟩
      have hday : (⟨dayOfCivil year month day⟩ : Date) = d := by
        rw [eq_iff_day, ← dayOfCivil_civilOfDay d.day, hd]
      rw [hday]
      exact ⟨hrange, rfl⟩
  · rw [if_neg (mt hcheck.mp hcivil)]
    simp [hcivil]

/-- All days of the years with four digits are in range. -/
theorem inRange_of_year {d : Date} (hlow : 0 ≤ d.civil.1) (hhigh : d.civil.1 ≤ 9999) :
    d.inRange = true := by
  obtain ⟨m, hm, hnumber⟩ := exists_number_eq d.day
  have hcivil : d.civil = m.civil := by
    rw [civil, ← hnumber, hm.civilOfDay_number]
  have hera : -1 ≤ m.era ∧ m.era ≤ 24 := by
    rw [hcivil, MarchDay.civil] at hlow hhigh
    have hyear := hm.inYear.year_nonneg
    have hlt := hm.inYear.year_lt
    by_cases hmonth : m.month < 10
    · simp only [if_pos hmonth] at hlow hhigh
      omega
    · simp only [if_neg hmonth] at hlow hhigh
      omega
  obtain ⟨hday, hlt⟩ := hm.inYear.dayOfEra_lt
  rw [inRange_iff, ← hnumber, number]
  simp only [first, last]
  omega

end Date
end RailWatch

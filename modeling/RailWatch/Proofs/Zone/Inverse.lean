import RailWatch.Proofs.Zone.Order
/-!
# RailWatch.Proofs.Zone.Inverse

From the wall back to the time line.

A reading may be shown at one instant, at two when the clock is put back, or at none when it is put
forward. `Zone.earliest?` is the exact inverse as far as there can be one: it gives an instant
whenever one shows the reading, and the first that does. An instant is given back from its own
reading unless it lies in the **second pass** of a time that the clock goes through twice,
`Zone.SecondPass`.

For Italian civil time, where instants before the first day do not count, this is
`Timetable.localize_inverts_reading`.
-/

namespace RailWatch
namespace Zone

/-! ### The earliest instant -/

/-- Only one instant shows a reading under a given offset. -/
theorem eq_of_reading_eq {z : Zone} {r : Reading} {i : Instant} (h : z.reading i = r) :
    i.seconds = r.seconds - (z.offsetAt i.seconds).seconds ∧ i.nanos = r.clock.nanos := by
  subst h
  rw [seconds_reading, nanos_reading]
  exact ⟨by omega, rfl⟩

/-- Where nothing is found, no instant shows the reading. -/
theorem reading_ne_of_earliest?_eq_none {z : Zone} {candidates : List Int}
    (hall : ∀ t, (z.offsetAt t).seconds ∈ candidates) {r : Reading}
    (h : z.earliest? candidates r = none) (i : Instant) : z.reading i ≠ r := by
  intro hi
  rw [earliest?, Option.map_eq_none_iff, List.find?_eq_none] at h
  have hne := h _ (hall i.seconds)
  rw [← (eq_of_reading_eq hi).1] at hne
  simp at hne

/-- What is found does not come after any instant that shows the reading. -/
theorem earliest?_le_of_reading_eq {z : Zone} {candidates : List Int}
    (hc : candidates.Pairwise (· > ·)) (hall : ∀ t, (z.offsetAt t).seconds ∈ candidates)
    {r : Reading} {i j : Instant} (h : z.earliest? candidates r = some i) (hj : z.reading j = r) :
    i ≤ j := by
  obtain ⟨o, -, rfl, -, hmax⟩ := earliest?_eq_some hc h
  obtain ⟨hsec, hnanos⟩ := eq_of_reading_eq hj
  have hle := hmax _ (hall j.seconds) (by rw [← hsec])
  rw [Instant.le_def]
  simp only
  omega

/-! ### The second pass -/

/-- The clock was put back at a switch, and at this instant it shows a reading that it showed
before the switch already. -/
def SecondPass (z : Zone) (i : Instant) : Prop :=
  ∃ s ∈ z.switches, s.start ≤ i.seconds ∧
    i.seconds + s.offset.seconds < s.start + (z.offsetAt (s.start - 1)).seconds

/-- In the second pass an earlier instant shows the same. -/
theorem SecondPass.exists_earlier {z : Zone} {d : Nat} (hz : Spaced d z.switches)
    (hd : ∀ t u, (z.offsetAt t).seconds - (z.offsetAt u).seconds ≤ d) {i : Instant}
    (h : z.SecondPass i) : ∃ j < i, z.reading j = z.reading i := by
  obtain ⟨s, hmem, hstart, hback⟩ := h
  have hat : z.offsetAt s.start = s.offset :=
    offsetAfter_of_switch hz hmem (Int.le_refl _) (by omega)
  have hdist := hd (s.start - 1) s.start
  rw [hat] at hdist
  have hafter : z.offsetAt i.seconds = s.offset :=
    offsetAfter_of_switch hz hmem hstart (by omega)
  -- the instant that lies before this one by what the clock was put back
  let j : Instant :=
    ⟨i.seconds + s.offset.seconds - (z.offsetAt (s.start - 1)).seconds, i.nanos⟩
  have hbefore : z.offsetAt j.seconds = z.offsetAt (s.start - 1) :=
    offsetAfter_before_switch hz hmem (by simp only [j]; omega) (by simp only [j]; omega)
  refine ⟨j, .inl (by simp only [j]; omega), ?_⟩
  rw [reading, reading, hbefore, hafter]
  simp [j]

/-- An instant that shows what an earlier one shows is in the second pass. -/
theorem secondPass_of_reading_eq {z : Zone} {d : Nat} (hz : Spaced d z.switches)
    (hd : ∀ t u, (z.offsetAt t).seconds - (z.offsetAt u).seconds ≤ d) {i j : Instant}
    (hlt : j < i) (h : z.reading j = z.reading i) : z.SecondPass i := by
  have hsec := congrArg Reading.seconds h
  have hnanos := congrArg (fun r => r.clock.nanos) h
  simp only [seconds_reading, nanos_reading] at hsec hnanos
  have hji : j.seconds < i.seconds := by
    rcases hlt with hlt | ⟨-, hlt⟩ <;> omega
  have hne : z.offsetAt j.seconds ≠ z.offsetAt i.seconds := fun heq => by
    rw [heq] at hsec
    omega
  have hdist := hd j.seconds i.seconds
  obtain ⟨s, hmem, hjs, hsi⟩ := exists_switch_of_offset_ne (Int.le_of_lt hji) hne
  have hafter : z.offsetAt i.seconds = s.offset := offsetAfter_of_switch hz hmem hsi (by omega)
  have hbefore : z.offsetAt j.seconds = z.offsetAt (s.start - 1) :=
    offsetAfter_before_switch hz hmem hjs (by omega)
  rw [hafter, hbefore] at hsec
  exact ⟨s, hmem, hsi, by omega⟩

namespace Rome

set_option maxRecDepth 4000 in
theorem offset_mem (t : Int) : (zone.offsetAt t).seconds ∈ offsets := by
  have hused : ∀ o ∈ zone.initial :: zone.switches.map (·.offset), o.seconds ∈ offsets := by
    decide
  exact hused _ (offsetAfter_mem _ _ _)

theorem offset_sub_le (t u : Int) :
    (zone.offsetAt t).seconds - (zone.offsetAt u).seconds ≤ (4204 : Nat) :=
  offsets_sub_le _ (offset_mem t) _ (offset_mem u)

set_option maxRecDepth 4000 in
/-- Before the first day local mean time holds, the least of all offsets. -/
theorem offset_le_of_lt_firstSecond {t : Int} (h : t < Instant.firstSecond) (u : Int) :
    (zone.offsetAt t).seconds ≤ (zone.offsetAt u).seconds := by
  have hlater : ∀ s ∈ zone.switches, Instant.firstSecond ≤ s.start := by
    decide
  have hleast : ∀ o ∈ offsets, lmt.seconds ≤ o := by
    decide
  have hlmt : zone.offsetAt t = lmt :=
    offsetAfter_eq_current fun s hs => Int.lt_of_lt_of_le h (hlater s hs)
  rw [hlmt]
  exact hleast _ (offset_mem u)

/-- The earliest instant does not come after any that shows the reading. -/
theorem earliest?_le_of_reading_eq {r : Reading} {i j : Instant} (h : earliest? r = some i)
    (hj : reading j = r) : i ≤ j :=
  Zone.earliest?_le_of_reading_eq offsets_falling offset_mem
    (Option.filter_eq_some_iff.mp h).1 hj

/-- Where there is no earliest instant, no instant in range shows the reading. -/
theorem reading_ne_of_earliest?_eq_none {r : Reading} (h : earliest? r = none) {i : Instant}
    (hi : i.inRange = true) : reading i ≠ r := by
  intro hr
  cases hz : zone.earliest? offsets r with
  | none => exact Zone.reading_ne_of_earliest?_eq_none offset_mem hz i hr
  | some j =>
      -- before the first day no offset makes up for the one that holds there
      have hji := Zone.earliest?_le_of_reading_eq offsets_falling offset_mem hz hr
      have hout : ¬j.inRange = true := fun hin => by
        rw [earliest?, hz, Option.filter_some, if_pos hin] at h
        cases h
      have hsec := congrArg Reading.seconds
        (hr.trans (Zone.reading_of_earliest? hz).symm)
      simp only [reading, seconds_reading] at hsec
      simp only [Instant.inRange, Bool.and_eq_true, decide_eq_true_eq] at hi hout
      rw [Instant.le_def] at hji
      have hleast := offset_le_of_lt_firstSecond (t := j.seconds) (by omega) i.seconds
      omega

end Rome
end Zone

namespace Timetable

theorem localize_eq_ok_iff {date : Date} {clock : Clock} {i : Instant} :
    localize date clock = .ok i ↔ Zone.Rome.earliest? ⟨date, clock⟩ = some i := by
  unfold localize
  cases Zone.Rome.earliest? ⟨date, clock⟩ <;> simp

theorem localize_eq_error_iff {date : Date} {clock : Clock} {e : TimeError} :
    localize date clock = .error e ↔
      Zone.Rome.earliest? ⟨date, clock⟩ = none ∧ e = .noSuchTime ⟨date, clock⟩ := by
  unfold localize
  cases Zone.Rome.earliest? ⟨date, clock⟩ <;> simp [eq_comm]

/-- **The way back from the wall.** The instant that a date and a time of day stand for does show
them, and none before it does. If they stand for no instant, none in range shows them. So what an
instant shows stands for an instant that is not later, and for another one only in the second pass
of a time that the clock goes through twice. -/
theorem localize_inverts_reading :
    (∀ date clock i, localize date clock = .ok i →
        i.inRange = true ∧ Zone.Rome.reading i = ⟨date, clock⟩ ∧
          ∀ j < i, Zone.Rome.reading j ≠ ⟨date, clock⟩) ∧
      (∀ date clock e, localize date clock = .error e →
        e = .noSuchTime ⟨date, clock⟩ ∧
          ∀ j, j.inRange = true → Zone.Rome.reading j ≠ ⟨date, clock⟩) ∧
      ∀ i, i.inRange = true →
        ∃ j, localize (Zone.Rome.reading i).date (Zone.Rome.reading i).clock = .ok j ∧ j ≤ i ∧
          (j = i ↔ ¬Zone.Rome.zone.SecondPass i) := by
  refine ⟨fun date clock i h => ?_, fun date clock e h => ?_, fun i hi => ?_⟩
  · rw [localize_eq_ok_iff] at h
    refine ⟨(Option.filter_eq_some_iff.mp h).2, Zone.Rome.reading_of_earliest? h, ?_⟩
    intro j hlt hj
    exact Instant.not_lt.mpr (Zone.Rome.earliest?_le_of_reading_eq h hj) hlt
  · obtain ⟨hnone, rfl⟩ := localize_eq_error_iff.mp h
    exact ⟨rfl, fun j hj => Zone.Rome.reading_ne_of_earliest?_eq_none hnone hj⟩
  · cases hj : Zone.Rome.earliest? (Zone.Rome.reading i) with
    | none => exact absurd rfl (Zone.Rome.reading_ne_of_earliest?_eq_none hj hi)
    | some j =>
        have hshown := Zone.Rome.reading_of_earliest? hj
        have hle := Zone.Rome.earliest?_le_of_reading_eq hj rfl
        refine ⟨j, localize_eq_ok_iff.mpr hj, hle, ?_, fun hfirst => ?_⟩
        · rintro rfl hsecond
          obtain ⟨k, hk, heq⟩ :=
            hsecond.exists_earlier Zone.Rome.spaced Zone.Rome.offset_sub_le
          exact Instant.not_lt.mpr (Zone.Rome.earliest?_le_of_reading_eq hj heq) hk
        · by_contra hne
          exact hfirst (Zone.secondPass_of_reading_eq Zone.Rome.spaced Zone.Rome.offset_sub_le
            (Instant.lt_of_le_of_ne hle hne) hshown)

/-- Half past two at night, in a leap second, when the clocks were put back in 2024 and when they
had been put forward. -/
theorem localize_inverts_reading_halfPastTwo :
    let clock : Clock := ⟨8999, 1500000000, by decide⟩
    let back : Date := ⟨20023⟩
    let forward : Date := ⟨19813⟩
    let first : Instant := ⟨1729988999, 1500000000⟩
    let second : Instant := ⟨1729992599, 1500000000⟩
    (localize back clock = .ok first ∧ ∀ j < first, Zone.Rome.reading j ≠ ⟨back, clock⟩) ∧
      (localize forward clock = .error (.noSuchTime ⟨forward, clock⟩) ∧
        ∀ j, j.inRange = true → Zone.Rome.reading j ≠ ⟨forward, clock⟩) ∧
      second.inRange = true ∧ Zone.Rome.reading second = ⟨back, clock⟩ ∧
        Zone.Rome.zone.SecondPass second := by
  intro clock back forward first second
  have hback : localize back clock = .ok first := by decide
  have hforward : localize forward clock = .error (.noSuchTime ⟨forward, clock⟩) := by decide
  have hin : second.inRange = true := by decide
  have hshown : Zone.Rome.reading second = ⟨back, clock⟩ := by decide
  obtain ⟨hsome, hnone, hround⟩ := localize_inverts_reading
  refine ⟨⟨hback, (hsome _ _ _ hback).2.2⟩, ⟨hforward, (hnone _ _ _ hforward).2⟩, hin, hshown, ?_⟩
  obtain ⟨j, hj, -, hsecond⟩ := hround second hin
  rw [hshown, hback] at hj
  obtain rfl := Except.ok.inj hj
  exact not_not.mp fun hfirst => absurd (hsecond.mpr hfirst) (by decide)

end Timetable
end RailWatch

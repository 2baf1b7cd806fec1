import RailWatch.Proofs.Journey.Conversion
import RailWatch.Proofs.Polling.Stages
/-!
# RailWatch.Proofs.Journey.Arrival

Whether a train has arrived: what its snapshot shows, and what the polling window makes of it.

Both sides look at the scheduled arrival, but not in the same way. A snapshot counts the moment of
the arrival as arrived; for the polling window the train is still en route then. And before the
departure the window does not look at the arrival at all, so that a train which had arrived already
would be polled as one about to depart. `Train.Fits` says what the two have to do with each other
for each decision, and `Journey.shown_fits_decision` that it is so for every train that a day gives:
such a train does not arrive before it departs.
-/

namespace RailWatch

namespace Train

/-- What the train shows at an instant fits the decision for a tick at that instant. Those decisions
that do not look at the times of a journey fit nothing. -/
def Fits (t : Train) (now : Instant) : PollDecision → Prop
  | .tooEarly | .nearDeparture =>
    t.hasArrived now = false ∧ t.delayAt now = t.delay ∧ t.suppressionAt now = t.suppression
  | .enRoute => t.hasArrived now = true ↔ now = t.arrival
  | .settling | .tooLate =>
    t.hasArrived now = true ∧ t.delayAt now = 0 ∧ t.suppressionAt now = none
  | .dayChanged | .firstPoll => False

variable {t : Train} {now later : Instant}

theorem hasArrived_iff : t.hasArrived now = true ↔ t.arrival ≤ now := by
  simp [hasArrived]

theorem hasArrived_eq_false_iff : t.hasArrived now = false ↔ now < t.arrival := by
  rw [← Instant.not_le, ← hasArrived_iff, Bool.not_eq_true]

/-- Up to the arrival everything is shown. -/
theorem shown_of_not_arrived (h : t.hasArrived now = false) :
    t.delayAt now = t.delay ∧ t.suppressionAt now = t.suppression := by
  simp [delayAt, suppressionAt, h]

/-- After the arrival nothing is shown any more. -/
theorem shown_of_arrived (h : t.hasArrived now = true) :
    t.delayAt now = 0 ∧ t.suppressionAt now = none := by
  simp [delayAt, suppressionAt, h]

/-- A train that has arrived stays there. -/
theorem hasArrived_of_le (hle : now ≤ later) (h : t.hasArrived now = true) :
    t.hasArrived later = true :=
  hasArrived_iff.mpr (Instant.le_trans (hasArrived_iff.mp h) hle)

/-- A delay of which nothing is shown any more is not shown again. -/
theorem delayAt_eq_zero_of_le (hle : now ≤ later) (h : t.delayAt now = 0) :
    t.delayAt later = 0 := by
  cases hnow : t.hasArrived now with
  | true => exact (shown_of_arrived (hasArrived_of_le hle hnow)).1
  | false =>
      -- there was no delay from the start
      rw [(shown_of_not_arrived hnow).1] at h
      cases hlater : t.hasArrived later with
      | true => exact (shown_of_arrived hlater).1
      | false => rw [(shown_of_not_arrived hlater).1, h]

/-- A suppression that is not shown any more is not shown again. -/
theorem suppressionAt_eq_none_of_le (hle : now ≤ later) (h : t.suppressionAt now = none) :
    t.suppressionAt later = none := by
  cases hnow : t.hasArrived now with
  | true => exact (shown_of_arrived (hasArrived_of_le hle hnow)).2
  | false =>
      rw [(shown_of_not_arrived hnow).2] at h
      cases hlater : t.hasArrived later with
      | true => exact (shown_of_arrived hlater).2
      | false => rw [(shown_of_not_arrived hlater).2, h]

/-- On the day of the departure what a train shows fits the decision, as long as the train does not
arrive before it departs. -/
theorem fits_decide (w : PollWindow) (horder : t.departure ≤ t.arrival)
    (hday : Zone.Rome.date now = Zone.Rome.date t.departure) :
    t.Fits now (w.decide now t.departure t.arrival true) := by
  obtain ⟨m, hm, hreached⟩ := w.stage_decide t.arrival hday
  have hdeparted : 2 ≤ m ↔ t.departure ≤ now := hreached 2
  have hover : 3 ≤ m ↔ t.departure ≤ now ∧ t.arrival < now := hreached 3
  -- before the departure the arrival is ahead too
  have hahead : m < 2 → t.hasArrived now = false := by
    intro hlt
    have hnot : now < t.departure :=
      Instant.not_le.mp fun hle => Nat.not_le.mpr hlt (hdeparted.mpr hle)
    exact hasArrived_eq_false_iff.mpr (Instant.lt_of_lt_of_le hnot horder)
  have hpast : 3 ≤ m → t.hasArrived now = true := fun hle =>
    hasArrived_iff.mpr (Instant.le_of_lt (hover.mp hle).2)
  cases hd : w.decide now t.departure t.arrival true <;> rw [hd] at hm <;> cases hm
  case tooEarly => exact ⟨hahead (by decide), shown_of_not_arrived (hahead (by decide))⟩
  case nearDeparture => exact ⟨hahead (by decide), shown_of_not_arrived (hahead (by decide))⟩
  case enRoute =>
    have hnot : ¬t.arrival < now := fun hlt =>
      absurd (hover.mpr ⟨hdeparted.mp (by decide), hlt⟩) (by decide)
    have hle : now ≤ t.arrival := Instant.not_lt.mp hnot
    show t.hasArrived now = true ↔ now = t.arrival
    rw [hasArrived_iff]
    exact ⟨Instant.le_antisymm hle, fun heq => heq ▸ Instant.le_refl now⟩
  case settling => exact ⟨hpast (by decide), shown_of_arrived (hpast (by decide))⟩
  case tooLate => exact ⟨hpast (by decide), shown_of_arrived (hpast (by decide))⟩

end Train

namespace Journey

open Payload

theorem departure_le_arrival_of_ofDay {id : String} {day : DayRecord} {t : Train}
    (h : ofDay id day = .ok t) : t.departure ≤ t.arrival := by
  obtain ⟨journey, -, hcarries⟩ := carriesOver_of_ofDay h
  exact Timetable.departure_le_arrival hcarries.times

/-- **What is shown fits the decision.** For every train that a day gives, every polling window and
every instant on the day of the departure: as long as the decision is that the departure is ahead,
the train has not arrived and shows its delay and its suppression; when it is that the arrival is
past, the train has arrived and shows neither; and en route it has arrived exactly at the moment of
its arrival. And what any train does not show any more it never shows again. -/
theorem shown_fits_decision :
    (∀ id day t, ofDay id day = .ok t → ∀ (w : PollWindow) now,
        Zone.Rome.date now = Zone.Rome.date t.departure →
          t.Fits now (w.decide now t.departure t.arrival true)) ∧
      ∀ (t : Train) now later, now ≤ later →
        (t.hasArrived now = true → t.hasArrived later = true) ∧
          (t.delayAt now = 0 → t.delayAt later = 0) ∧
          (t.suppressionAt now = none → t.suppressionAt later = none) := by
  constructor
  · intro id day t h w now hday
    exact Train.fits_decide w (departure_le_arrival_of_ofDay h) hday
  · intro t now later hle
    exact ⟨Train.hasArrived_of_le hle, Train.delayAt_eq_zero_of_le hle,
      Train.suppressionAt_eq_none_of_le hle⟩

/-- A summer day with a train that is far too late and suppressed all the way. -/
def shortDay : DayRecord := { lateDay with arrivalTime := "9:00:00" }

/-- The train of that day. -/
def shortTrain : Train :=
  { nightTrain with
    name := "S5 10512 - 08:05 da Varese per Treviglio"
    status := .cancelled
    delay := 4294967295
    departure := ⟨1721023559, nanosPerSecond⟩
    arrival := .ofSeconds 1721026800
    suppression := some ⟨"S01800", "VARESE", "S01900", "TREVIGLIO"⟩ }

/-- Its delay is shown ten minutes before the departure, and no more from the arrival on. -/
theorem shown_fits_decision_shortTrain :
    let w := PollWindow.standard
    let early := Instant.ofSeconds 1721022960
    let late := Instant.ofSeconds 1721027100
    ofDay "10512" shortDay = .ok shortTrain ∧
      (Zone.Rome.date early = Zone.Rome.date shortTrain.departure ∧
        w.decide early shortTrain.departure shortTrain.arrival true = .nearDeparture ∧
          shortTrain.delayAt early = shortTrain.delay) ∧
      (Zone.Rome.date shortTrain.arrival = Zone.Rome.date shortTrain.departure ∧
        w.decide shortTrain.arrival shortTrain.departure shortTrain.arrival true = .enRoute ∧
          shortTrain.hasArrived shortTrain.arrival = true) ∧
      shortTrain.arrival ≤ late ∧ shortTrain.delayAt shortTrain.arrival = 0 ∧
        shortTrain.delayAt late = 0 := by
  intro w early late
  obtain ⟨hfits, hstays⟩ := shown_fits_decision
  have h : ofDay "10512" shortDay = .ok shortTrain := by decide +kernel
  have hday : Zone.Rome.date early = Zone.Rome.date shortTrain.departure := by decide
  have hday' : Zone.Rome.date shortTrain.arrival = Zone.Rome.date shortTrain.departure := by decide
  have hnear : w.decide early shortTrain.departure shortTrain.arrival true = .nearDeparture := by
    decide
  have hroute : w.decide shortTrain.arrival shortTrain.departure shortTrain.arrival true =
      .enRoute := by decide
  have hfirst := hfits "10512" shortDay shortTrain h w early hday
  have hlast := hfits "10512" shortDay shortTrain h w shortTrain.arrival hday'
  rw [hnear] at hfirst
  rw [hroute] at hlast
  have harrived : shortTrain.hasArrived shortTrain.arrival = true := hlast.mpr rfl
  have hle : shortTrain.arrival ≤ late := by decide
  have hzero : shortTrain.delayAt shortTrain.arrival = 0 := (Train.shown_of_arrived harrived).1
  exact ⟨h, ⟨hday, hnear, hfirst.2.1⟩, ⟨hday', hroute, harrived⟩, hle, hzero,
    (hstays shortTrain shortTrain.arrival late hle).2.1 hzero⟩

end Journey
end RailWatch

import RailWatch.Journey
import RailWatch.Proofs.Zone.Inverse
/-!
# RailWatch.Proofs.Journey.Schedule

The schedule of a train that was found in a payload.

`Timetable.journeyTimes_eq_ok_iff` takes the computation of the two times apart into its steps, and
`Journey.ofDay_eq_ok_iff` that of a whole snapshot. A train is **dated** by the service date of the
day that its payload begins with; every train found in a payload is. Its departure falls on that
date in Italy, and it arrives no earlier than it departs.

All that can be said about the two times of a journey is in `Timetable.journeyTimes_in_order`.
-/

namespace RailWatch
namespace Timetable

/-- The two times of a journey, step by step. -/
theorem journeyTimes_eq_ok_iff {date departure arrival : String} {dep arr : Instant} :
    journeyTimes date departure arrival = .ok (dep, arr) ↔
      ∃ day start stop last, serviceDate date = .ok day ∧ clockTime departure = .ok start ∧
        clockTime arrival = .ok stop ∧ arrivalDay date day start stop = .ok last ∧
        localize day start = .ok dep ∧ localize last stop = .ok arr := by
  unfold journeyTimes
  cases serviceDate date with
  | error e => simp [bind, Except.bind]
  | ok day =>
      cases clockTime departure with
      | error e => simp [bind, Except.bind]
      | ok start =>
          cases clockTime arrival with
          | error e => simp [bind, Except.bind]
          | ok stop =>
              cases hlast : arrivalDay date day start stop with
              | error e => simp [bind, Except.bind, hlast]
              | ok last =>
                  cases hdep : localize day start with
                  | error e => simp [bind, Except.bind, hlast, hdep]
                  | ok dep =>
                      cases harr : localize last stop with
                      | error e => simp [bind, Except.bind, hlast, hdep, harr]
                      | ok arr => simp [bind, Except.bind, pure, Except.pure, hlast, hdep, harr]

/-- A journey runs past midnight if its time of arrival is before that of its departure. -/
theorem arrivalDay_eq_ok {text : String} {day last : Date} {start stop : Clock}
    (h : arrivalDay text day start stop = .ok last) :
    last = if stop.before start then day.next else day := by
  unfold arrivalDay at h
  split at h <;> rename_i hb
  · rw [if_pos hb]
    split at h
    · exact (Except.ok.inj h).symm
    · cases h
  · rw [if_neg hb]
    exact (Except.ok.inj h).symm

/-- A journey does not arrive on the wall before it departs there. -/
theorem seconds_le_of_arrivalDay {text : String} {day last : Date} {start stop : Clock}
    (h : arrivalDay text day start stop = .ok last) :
    (Reading.mk day start).seconds < (Reading.mk last stop).seconds ∨
      (Reading.mk day start).seconds = (Reading.mk last stop).seconds ∧
        start.nanos ≤ stop.nanos := by
  have hstart := start.second_lt
  unfold secondsPerDay at hstart
  simp only [Reading.seconds, secondsPerDay, arrivalDay_eq_ok h]
  by_cases hb : stop.before start = true
  · rw [if_pos hb, Date.next_day]
    omega
  · rw [if_neg hb]
    rw [Clock.before_iff] at hb
    omega

/-- The departure falls on the service date. -/
theorem date_departure {date departure arrival : String} {dep arr : Instant} {day : Date}
    (h : journeyTimes date departure arrival = .ok (dep, arr)) (hday : serviceDate date = .ok day) :
    Zone.Rome.date dep = day := by
  obtain ⟨day', start, stop, last, hdate, -, -, -, hdep, -⟩ := journeyTimes_eq_ok_iff.mp h
  obtain rfl : day' = day := Except.ok.inj (hdate.symm.trans hday)
  rw [Zone.Rome.date, Zone.Rome.reading_of_earliest? (localize_eq_ok_iff.mp hdep)]

/-- No journey arrives before it departs. -/
theorem departure_le_arrival {date departure arrival : String} {dep arr : Instant}
    (h : journeyTimes date departure arrival = .ok (dep, arr)) : dep ≤ arr := by
  obtain ⟨day, start, stop, last, -, -, -, hlast, hdep, harr⟩ := journeyTimes_eq_ok_iff.mp h
  exact Zone.Rome.earliest?_le (localize_eq_ok_iff.mp hdep) (localize_eq_ok_iff.mp harr)
    (seconds_le_of_arrivalDay hlast)

/-- The arrival falls on the service date or on the day after it. -/
theorem date_arrival {date departure arrival : String} {dep arr : Instant} {day : Date}
    (h : journeyTimes date departure arrival = .ok (dep, arr)) (hday : serviceDate date = .ok day) :
    Zone.Rome.date arr = day ∨ Zone.Rome.date arr = day.next := by
  obtain ⟨day', start, stop, last, hdate, -, -, hlast, -, harr⟩ := journeyTimes_eq_ok_iff.mp h
  obtain rfl : day' = day := Except.ok.inj (hdate.symm.trans hday)
  rw [Zone.Rome.date, Zone.Rome.reading_of_earliest? (localize_eq_ok_iff.mp harr)]
  rw [arrivalDay_eq_ok hlast]
  cases stop.before start with
  | true => exact .inr rfl
  | false => exact .inl rfl

/-- **The times of a journey are in order.** Whatever texts they are read from, the journey arrives
no earlier than it departs, and at the same instant only if both times of day are the same. A clock
in Italy shows the service date and the time of the departure when it departs, and the time of the
arrival when it arrives: on the service date, or on the next day if that time is before the one of
the departure. -/
theorem journeyTimes_in_order {date departure arrival : String} {dep arr : Instant}
    (h : journeyTimes date departure arrival = .ok (dep, arr)) :
    ∃ day start stop, serviceDate date = .ok day ∧ clockTime departure = .ok start ∧
      clockTime arrival = .ok stop ∧ dep ≤ arr ∧ (dep = arr ↔ start = stop) ∧
      Zone.Rome.reading dep = ⟨day, start⟩ ∧
      Zone.Rome.reading arr = ⟨if stop.before start then day.next else day, stop⟩ := by
  obtain ⟨day, start, stop, last, hdate, hstart, hstop, hlast, hdep, harr⟩ :=
    journeyTimes_eq_ok_iff.mp h
  rw [localize_eq_ok_iff] at hdep harr
  have hshown := Zone.Rome.reading_of_earliest? hdep
  have hshown' := Zone.Rome.reading_of_earliest? harr
  obtain rfl := arrivalDay_eq_ok hlast
  refine ⟨day, start, stop, hdate, hstart, hstop, departure_le_arrival h, ?_, hshown, hshown'⟩
  constructor
  · -- one instant has one reading
    rintro rfl
    exact congrArg Reading.clock (hshown.symm.trans hshown')
  · rintro rfl
    rw [if_neg (by simp [Clock.before_irrefl])] at harr
    exact Option.some.inj (hdep.symm.trans harr)

/-- A journey of less than a minute over the midnight at which Italy went over to Central European
Time, with a departure in a leap second. -/
theorem journeyTimes_in_order_meanTime :
    let dep : Instant := ⟨-2403565257, nanosPerSecond⟩
    let arr : Instant := .ofSeconds (-2403565200)
    journeyTimes "18931031" "23:48:60" "00:00:00" = .ok (dep, arr) ∧
      ∃ day start stop, serviceDate "18931031" = .ok day ∧ clockTime "23:48:60" = .ok start ∧
        clockTime "00:00:00" = .ok stop ∧ dep ≤ arr ∧ (dep = arr ↔ start = stop) ∧
        Zone.Rome.reading dep = ⟨day, start⟩ ∧
        Zone.Rome.reading arr = ⟨if stop.before start then day.next else day, stop⟩ := by
  intro dep arr
  have h : journeyTimes "18931031" "23:48:60" "00:00:00" = .ok (dep, arr) := by decide
  exact ⟨h, journeyTimes_in_order h⟩

end Timetable

namespace Journey

open Payload

/-- All that goes into the snapshot of a day, in the order in which it is worked out. -/
theorem ofDay_eq_ok_iff {id : String} {day : DayRecord} {train : Train} :
    ofDay id day = .ok train ↔
      ∃ journey rest departure arrival name suppression, day.journeys = journey :: rest ∧
        Timetable.journeyTimes day.date day.departureTime day.arrivalTime =
          .ok (departure, arrival) ∧
        day.departureStation.name = some name ∧
        suppression? journey.train = .ok suppression ∧
        train =
          { id
            name := displayName journey.train departure (Text.capitalize name)
            status :=
              Status.classify (position? journey.passes) suppression day.cancelled
                journey.train.status day.departureStation.id day.arrivalStation.id
            delay := shownDelay journey.train.delay
            departure
            departureId := day.departureStation.id
            departureName := Text.capitalize name
            arrival
            arrivalId := day.arrivalStation.id
            suppression
            position := position? journey.passes } := by
  unfold ofDay
  rcases day.journeys with _ | ⟨journey, rest⟩
  · simp
  · rcases Timetable.journeyTimes day.date day.departureTime day.arrivalTime with
      e | ⟨departure, arrival⟩
    · simp
    · rcases day.departureStation.name with _ | name
      · simp
      · rcases hs : suppression? journey.train with field | suppression <;> simp [hs, eq_comm]

/-- The train was found in a payload whose first day has this service date. -/
def Dated (id : String) (date : Date) (train : Train) : Prop :=
  ∃ day rest, ofDays id (day :: rest) = .ok (.found train) ∧
    Timetable.serviceDate day.date = .ok date

/-- The snapshot of the first day is all that a payload says. -/
theorem ofDays_eq_found_iff {id : String} {days : List DayRecord} {train : Train} :
    ofDays id days = .ok (.found train) ↔
      ∃ day rest, days = day :: rest ∧ ofDay id day = .ok train := by
  cases days with
  | nil => simp [ofDays]
  | cons day rest => cases h : ofDay id day <;> simp [ofDays, Except.map, h]

theorem exists_dated_of_ofDays {id : String} {days : List DayRecord} {train : Train}
    (h : ofDays id days = .ok (.found train)) : ∃ date, Dated id date train := by
  obtain ⟨day, rest, rfl, hday⟩ := ofDays_eq_found_iff.mp h
  obtain ⟨_, _, _, _, _, _, -, htimes, -⟩ := ofDay_eq_ok_iff.mp hday
  obtain ⟨date, _, _, _, hdate, -⟩ := Timetable.journeyTimes_eq_ok_iff.mp htimes
  exact ⟨date, day, rest, h, hdate⟩

/-- Every train that is found in a payload text is dated. -/
theorem exists_dated_of_ofText {id text : String} {train : Train}
    (h : ofText id text = .ok (.found train)) : ∃ date, Dated id date train := by
  unfold ofText at h
  split at h
  · cases h
  · exact exists_dated_of_ofDays h

/-- Every train that is found in a payload value is dated. -/
theorem exists_dated_of_ofValue {id : String} {v : Json.Value} {train : Train}
    (h : ofValue id v = .ok (.found train)) : ∃ date, Dated id date train := by
  unfold ofValue at h
  split at h
  · cases h
  · exact exists_dated_of_ofDays h

/-- The times of a dated train come from the timetable of its date. -/
theorem Dated.journeyTimes {id : String} {date : Date} {train : Train} (h : Dated id date train) :
    ∃ text departure arrival, Timetable.serviceDate text = .ok date ∧
      Timetable.journeyTimes text departure arrival = .ok (train.departure, train.arrival) := by
  obtain ⟨day, rest, hfound, hdate⟩ := h
  obtain ⟨day', _, heq, hday⟩ := ofDays_eq_found_iff.mp hfound
  obtain rfl : day = day' := (List.cons.inj heq).1
  obtain ⟨_, _, dep, arr, _, _, -, htimes, -, -, rfl⟩ := ofDay_eq_ok_iff.mp hday
  exact ⟨day.date, day.departureTime, day.arrivalTime, hdate, htimes⟩

/-- A dated train departs on its date. -/
theorem Dated.date_departure {id : String} {date : Date} {train : Train}
    (h : Dated id date train) : Zone.Rome.date train.departure = date := by
  obtain ⟨text, departure, arrival, hdate, htimes⟩ := h.journeyTimes
  exact Timetable.date_departure htimes hdate

/-- A dated train arrives no earlier than it departs. -/
theorem Dated.departure_le_arrival {id : String} {date : Date} {train : Train}
    (h : Dated id date train) : train.departure ≤ train.arrival := by
  obtain ⟨text, departure, arrival, -, htimes⟩ := h.journeyTimes
  exact Timetable.departure_le_arrival htimes

/-- A dated train arrives on its date or on the day after it. -/
theorem Dated.date_arrival {id : String} {date : Date} {train : Train} (h : Dated id date train) :
    Zone.Rome.date train.arrival = date ∨ Zone.Rome.date train.arrival = date.next := by
  obtain ⟨text, departure, arrival, hdate, htimes⟩ := h.journeyTimes
  exact Timetable.date_arrival htimes hdate

/-- A day whose train runs past midnight. -/
def nightDay : DayRecord :=
  { date := "20240315"
    departureTime := "23:40:00"
    arrivalTime := "00:25:00"
    departureStation := ⟨"S01800", some "VARESE"⟩
    arrivalStation := ⟨"S01900", none⟩
    cancelled := false
    journeys :=
      [⟨⟨"S5", "10512", "TREVIGLIO", some "V", none, none, none, none, none⟩, []⟩] }

/-- The train of that day. -/
def nightTrain : Train :=
  { id := "10512"
    name := "S5 10512 - 23:40 da Varese per Treviglio"
    status := .travelling
    delay := 0
    departure := .ofSeconds 1710542400
    departureId := "S01800"
    departureName := "Varese"
    arrival := .ofSeconds 1710545100
    arrivalId := "S01900"
    suppression := none
    position := none }

theorem dated_nightTrain : Dated "10512" ⟨19797⟩ nightTrain :=
  ⟨nightDay, [], by decide, by decide⟩

end Journey
end RailWatch

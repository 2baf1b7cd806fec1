import RailWatch.Proofs.Journey.Schedule
/-!
# RailWatch.Proofs.Journey.Conversion

What becomes of a day of a payload.

A day gives a snapshot if it has a journey, if its times can be worked out, if the station of the
departure has a name, and if a suppression is given in full or not at all. `flaws` lists everything
that a day lacks of this, in the order of the checks; the conversion reports the head of that list
(`ofDay_eq_error_iff`). Where nothing is wrong the snapshot says what the day and its first journey
say, `CarriesOver`.
-/

namespace RailWatch

open Payload Text

/-- A time of day shows the hour and the minute that it was made of. -/
theorem Clock.hour_minute_of_ofHms? {hour minute second : Nat} {c : Clock}
    (h : ofHms? hour minute second = some c) : c.hour = hour ∧ c.minute = minute := by
  unfold ofHms? at h
  split at h
  · obtain rfl := Option.some.inj h
    simp only [Clock.hour, Clock.minute]
    omega
  · split at h
    · obtain rfl := Option.some.inj h
      simp only [Clock.hour, Clock.minute]
      omega
    · cases h

/-- A time of day that was read is made of an hour, a minute and a second. -/
theorem Timetable.exists_ofHms?_of_clockTime {text : String} {c : Clock}
    (h : clockTime text = .ok c) : ∃ hour minute second, Clock.ofHms? hour minute second = some c := by
  unfold clockTime at h
  split at h
  · next c' hread =>
      obtain rfl := Except.ok.inj h
      simp only [Clock.read, Option.bind_eq_bind, Option.bind_eq_some_iff] at hread
      obtain ⟨⟨hour, _⟩, -, _, -, ⟨minute, _⟩, -, _, -, ⟨second, rest⟩, -, hrest⟩ := hread
      simp only [Option.ite_none_right_eq_some] at hrest
      exact ⟨hour, minute, second, hrest.2⟩
  · cases h

/-- At the departure of a journey a clock shows the time of the departure. -/
theorem Timetable.clock_departure {date departure arrival : String} {dep arr : Instant}
    (h : journeyTimes date departure arrival = .ok (dep, arr)) :
    clockTime departure = .ok (Zone.Rome.reading dep).clock := by
  obtain ⟨day, start, stop, last, -, hstart, -, -, hdep, -⟩ := journeyTimes_eq_ok_iff.mp h
  rw [hstart, Zone.Rome.reading_of_earliest? (localize_eq_ok_iff.mp hdep)]

namespace Journey

/-! ### What a day may lack -/

/-- What is wrong if a field is needed: that it is not given. -/
def lacks {α : Type} (given : Option α) (field : NeededField) : List PayloadError :=
  if given.isSome then [] else [.missingField field]

/-- What is wrong with the times of a day. -/
def timeFlaws (day : DayRecord) : List PayloadError :=
  match Timetable.journeyTimes day.date day.departureTime day.arrivalTime with
  | .ok _ => []
  | .error e => [.badTime e]

/-- What is wrong with the suppression of a train. There is none if no station is named where it
starts, whatever else is given. -/
def suppressionFlaws (t : TrainRecord) : List PayloadError :=
  if t.suppressionStart.isSome then
    lacks t.suppressionStartId .suppressionStartId ++
      (lacks t.suppressionEndId .suppressionEndId ++ lacks t.suppressionEnd .suppressionEnd)
  else []

/-- All that is wrong with a day, in the order in which it is checked. -/
def flaws (day : DayRecord) : List PayloadError :=
  lacks day.journeys.head? .journey ++ (timeFlaws day ++
    (lacks day.departureStation.name .departureName ++
      day.journeys.head?.elim [] fun journey => suppressionFlaws journey.train))

@[simp] theorem lacks_some {α : Type} (a : α) (field : NeededField) :
    lacks (some a) field = [] := rfl

@[simp] theorem lacks_none {α : Type} (field : NeededField) :
    lacks (none : Option α) field = [.missingField field] := rfl

theorem lacks_eq_nil_iff {α : Type} {given : Option α} {field : NeededField} :
    lacks given field = [] ↔ ∃ a, given = some a := by
  cases given <;> simp

theorem timeFlaws_eq_nil_iff {day : DayRecord} :
    timeFlaws day = [] ↔
      ∃ times, Timetable.journeyTimes day.date day.departureTime day.arrivalTime = .ok times := by
  unfold timeFlaws
  cases Timetable.journeyTimes day.date day.departureTime day.arrivalTime <;> simp

/-- A suppression is given in full or not at all. -/
def SuppressionGiven (t : TrainRecord) : Prop :=
  t.suppressionStart = none ∨
    (∃ fromId, t.suppressionStartId = some fromId) ∧ (∃ toId, t.suppressionEndId = some toId) ∧
      ∃ toName, t.suppressionEnd = some toName

theorem suppressionFlaws_eq_nil_iff {t : TrainRecord} :
    suppressionFlaws t = [] ↔ SuppressionGiven t := by
  unfold suppressionFlaws SuppressionGiven
  cases t.suppressionStart with
  | none => simp
  | some name => simp [lacks_eq_nil_iff]

/-! ### The suppression -/

/-- A suppression that is needed and lacks a field is reported by the first such field. -/
theorem suppression?_eq_error_iff {t : TrainRecord} {field : NeededField} :
    suppression? t = .error field ↔ (suppressionFlaws t).head? = some (.missingField field) := by
  unfold suppression? suppressionFlaws
  rcases t.suppressionStart with _ | fromName
  · simp
  · rcases t.suppressionStartId with _ | fromId
    · simp
    · rcases t.suppressionEndId with _ | toId
      · simp
      · rcases t.suppressionEnd with _ | toName <;> simp

/-- The suppression of a snapshot is there if the train names a station where it starts, and each
of its parts is what one field of the train says. -/
structure SuppressionCarriesOver (t : TrainRecord) (suppression : Option Suppression) : Prop where
  isSome : suppression.isSome = t.suppressionStart.isSome
  fromName : ∀ s, suppression = some s → t.suppressionStart = some s.fromName
  fromId : ∀ s, suppression = some s → t.suppressionStartId = some s.fromId
  toName : ∀ s, suppression = some s → t.suppressionEnd = some s.toName
  toId : ∀ s, suppression = some s → t.suppressionEndId = some s.toId

/-- What carries over was given. -/
theorem SuppressionCarriesOver.given {t : TrainRecord} {suppression : Option Suppression}
    (h : SuppressionCarriesOver t suppression) : SuppressionGiven t := by
  cases suppression with
  | none => exact .inl (by simpa using h.isSome.symm)
  | some s => exact .inr ⟨⟨_, h.fromId s rfl⟩, ⟨_, h.toId s rfl⟩, _, h.toName s rfl⟩

theorem suppressionCarriesOver_of_eq_ok {t : TrainRecord} {suppression : Option Suppression}
    (h : suppression? t = .ok suppression) : SuppressionCarriesOver t suppression := by
  unfold suppression? at h
  split at h
  · next hstart =>
      obtain rfl := Except.ok.inj h
      exact ⟨by simp [hstart], nofun, nofun, nofun, nofun⟩
  · next fromName hstart =>
      split at h
      · cases h
      · cases h
      · cases h
      · next fromId toId toName hstartId hendId hend =>
          obtain rfl := Except.ok.inj h
          refine ⟨by simp [hstart], ?_, ?_, ?_, ?_⟩ <;> rintro _ ⟨⟩
          · exact hstart
          · exact hstartId
          · exact hend
          · exact hendId

/-! ### The conversion -/

/-- **The first flaw is reported.** -/
theorem ofDay_eq_error_iff {id : String} {day : DayRecord} {e : PayloadError} :
    ofDay id day = .error e ↔ (flaws day).head? = some e := by
  unfold ofDay flaws timeFlaws
  rcases day.journeys with _ | ⟨journey, rest⟩
  · simp
  · rcases Timetable.journeyTimes day.date day.departureTime day.arrivalTime with
      e' | ⟨departure, arrival⟩
    · simp
    · rcases day.departureStation.name with _ | name
      · simp
      · cases hs : suppression? journey.train with
        | error field =>
            have hflaw := suppression?_eq_error_iff.mp hs
            simp [hs, hflaw]
        | ok suppression =>
            have hgiven := (suppressionCarriesOver_of_eq_ok hs).given
            simp [hs, suppressionFlaws_eq_nil_iff.mpr hgiven]

/-- A day is converted exactly if nothing is wrong with it. -/
theorem exists_ofDay_eq_ok_iff {id : String} {day : DayRecord} :
    (∃ t, ofDay id day = .ok t) ↔ flaws day = [] := by
  rw [← List.head?_eq_none_iff]
  constructor
  · rintro ⟨t, ht⟩
    cases hflaws : (flaws day).head? with
    | none => rfl
    | some e =>
        have herror : ofDay id day = .error e := ofDay_eq_error_iff.mpr hflaws
        rw [ht] at herror
        cases herror
  · intro hnone
    cases h : ofDay id day with
    | ok t => exact ⟨t, rfl⟩
    | error e =>
        rw [ofDay_eq_error_iff.mp h] at hnone
        cases hnone

theorem flaws_eq_nil_iff {day : DayRecord} :
    flaws day = [] ↔
      (∃ journey, day.journeys.head? = some journey) ∧
        (∃ times, Timetable.journeyTimes day.date day.departureTime day.arrivalTime = .ok times) ∧
        (∃ name, day.departureStation.name = some name) ∧
        ∀ journey, day.journeys.head? = some journey → SuppressionGiven journey.train := by
  simp only [flaws, List.append_eq_nil_iff, lacks_eq_nil_iff, timeFlaws_eq_nil_iff]
  cases day.journeys.head? with
  | none => simp
  | some journey => simp [suppressionFlaws_eq_nil_iff]

/-- The delay of a snapshot is the known one, held within the numbers of 32 bits without a sign, and
none if none is known. -/
structure DelayCarriesOver (known : Option Int) (shown : Nat) : Prop where
  unknown : known = none → shown = 0
  within : ∀ d, known = some d → 0 ≤ d → d < UInt32.size → (shown : Int) = d
  ahead : ∀ d, known = some d → d < 0 → shown = 0
  late : ∀ d, known = some d → UInt32.size ≤ d → shown = UInt32.size - 1

theorem delayCarriesOver_shownDelay (known : Option Int) :
    DelayCarriesOver known (shownDelay known) := by
  have hsome : ∀ d, shownDelay (some d) = (min (max d 0) 4294967295).toNat := fun _ => rfl
  have hsize : UInt32.size = 4294967296 := rfl
  refine ⟨?_, ?_, ?_, ?_⟩
  · rintro rfl
    rfl
  · rintro d rfl h0 hlt
    rw [hsome]
    omega
  · rintro d rfl h0
    rw [hsome]
    omega
  · rintro d rfl hle
    rw [hsome]
    omega

/-- The snapshot says what the day and its journey say. The time in its name is the hour and the
minute that are read in the time of the departure. -/
structure CarriesOver (id : String) (day : DayRecord) (journey : JourneyRecord) (t : Train) :
    Prop where
  id : t.id = id
  departureId : t.departureId = day.departureStation.id
  arrivalId : t.arrivalId = day.arrivalStation.id
  times : Timetable.journeyTimes day.date day.departureTime day.arrivalTime =
    .ok (t.departure, t.arrival)
  departureName : day.departureStation.name.map capitalize = some t.departureName
  delay : DelayCarriesOver journey.train.delay t.delay
  suppression : SuppressionCarriesOver journey.train t.suppression
  name : ∃ hour minute second clock, Timetable.clockTime day.departureTime = .ok clock ∧
    Clock.ofHms? hour minute second = some clock ∧
    t.name = journey.train.line ++ " " ++ journey.train.number ++ " - " ++ padded 2 hour ++ ":" ++
      padded 2 minute ++ " da " ++ t.departureName ++ " per " ++ capitalize journey.train.direction

theorem carriesOver_of_ofDay {id : String} {day : DayRecord} {t : Train}
    (h : ofDay id day = .ok t) :
    ∃ journey, day.journeys.head? = some journey ∧ CarriesOver id day journey t := by
  obtain ⟨journey, rest, departure, arrival, name, suppression, hjourneys, htimes, hname,
    hsuppression, rfl⟩ := ofDay_eq_ok_iff.mp h
  refine ⟨journey, by rw [hjourneys, List.head?_cons], ?_⟩
  have hclock := Timetable.clock_departure htimes
  obtain ⟨hour, minute, second, hhms⟩ := Timetable.exists_ofHms?_of_clockTime hclock
  obtain ⟨hhour, hminute⟩ := Clock.hour_minute_of_ofHms? hhms
  exact
    { id := rfl
      departureId := rfl
      arrivalId := rfl
      times := htimes
      departureName := by rw [hname, Option.map_some]
      delay := delayCarriesOver_shownDelay _
      suppression := suppressionCarriesOver_of_eq_ok hsuppression
      name := by
        refine ⟨hour, minute, second, _, hclock, hhms, ?_⟩
        simp only [displayName, Clock.shortText, hhour, hminute, String.append_assoc] }

/-- **A day is converted as a whole or not at all.** It gives a snapshot exactly if it has a journey,
its times can be worked out, the station of the departure has a name, and the suppression of the
journey is given in full or not at all. Otherwise the error is the first of its flaws. The snapshot
says what the day and its first journey say. -/
theorem ofDay_converts (id : String) (day : DayRecord) :
    ((∃ t, ofDay id day = .ok t) ↔
        (∃ journey, day.journeys.head? = some journey) ∧
          (∃ times, Timetable.journeyTimes day.date day.departureTime day.arrivalTime = .ok times) ∧
          (∃ name, day.departureStation.name = some name) ∧
          ∀ journey, day.journeys.head? = some journey → SuppressionGiven journey.train) ∧
      (∀ e, ofDay id day = .error e ↔ (flaws day).head? = some e) ∧
      ∀ t, ofDay id day = .ok t →
        ∃ journey, day.journeys.head? = some journey ∧ CarriesOver id day journey t :=
  ⟨exists_ofDay_eq_ok_iff.trans flaws_eq_nil_iff, fun _ => ofDay_eq_error_iff,
    fun _ => carriesOver_of_ofDay⟩

/-- A summer day with a train that is far too late and suppressed all the way. -/
def lateDay : DayRecord :=
  { nightDay with
    date := "20240715"
    departureTime := "8:05:60"
    journeys :=
      [⟨⟨"S5", "10512", "TREVIGLIO", none, some 4294967296, some "VARESE", some "S01800",
        some "TREVIGLIO", some "S01900"⟩, []⟩] }

/-- The day is converted. With no date, no name for the station of the departure and no id for the
station where the suppression starts, the date is what is wrong. -/
theorem ofDay_converts_lateDay :
    let flawed : DayRecord :=
      { lateDay with
        date := "20240715x"
        departureStation := ⟨"S01800", none⟩
        journeys := [⟨⟨"S5", "10512", "TREVIGLIO", none, none, some "VARESE", none, none, none⟩, []⟩] }
    (∃ t, ofDay "10512" lateDay = .ok t ∧
        ∃ journey, lateDay.journeys.head? = some journey ∧ CarriesOver "10512" lateDay journey t) ∧
      (flaws flawed).length = 5 ∧
        ofDay "10512" flawed = .error (.badTime (.notADate "20240715x")) := by
  intro flawed
  obtain ⟨hok, -, hcarries⟩ := ofDay_converts "10512" lateDay
  have htimes : Timetable.journeyTimes lateDay.date lateDay.departureTime lateDay.arrivalTime =
      .ok (⟨1721023559, nanosPerSecond⟩, .ofSeconds 1721082300) := by decide +kernel
  have hgiven : ∀ journey, lateDay.journeys.head? = some journey →
      SuppressionGiven journey.train := by
    rintro _ ⟨⟩
    exact .inr ⟨⟨_, rfl⟩, ⟨_, rfl⟩, _, rfl⟩
  obtain ⟨t, ht⟩ := hok.mpr ⟨⟨_, rfl⟩, ⟨_, htimes⟩, ⟨_, rfl⟩, hgiven⟩
  refine ⟨⟨t, ht, hcarries t ht⟩, by decide, ?_⟩
  exact ((ofDay_converts "10512" flawed).2.1 _).mpr (by decide)

end Journey
end RailWatch

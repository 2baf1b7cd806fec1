import RailWatch.Payload.Record
import RailWatch.Proofs.Outcome
import RailWatch.Proofs.Payload.Fit
/-!
# RailWatch.Proofs.Payload.Format

The format of a payload, record by record.

Each record is said here in full, without its shape: which keys it has and in which order, what
stands under them, and how many elements a list for it may have. A record may be an object, where
other keys do not matter and a field that may be missing may also be null. Or it is a list of the
fields, where only those at the end may be left out that the least number of elements lets go; the
name of a station is not one of them.

The main result is `decodeDays_eq_ok_iff`: a value is decoded to days exactly if it is a payload of
these days. For each record its shape **mirrors** the format (`Mirrors`), from the inside out.
-/

namespace RailWatch.Payload

open Json

/-! ### The records -/

/-- The value is what is known about a pass. -/
structure IsActual (v : Value) (r : ActualRecord) : Prop where
  room : v.HasRoom 0 2
  stationId : Omissible IsText (v.slot? "actual_station_mir" 0) r.stationId
  stationName : Omissible IsText (v.slot? "actual_station_name" 1) r.stationName

/-- The value is this pass. -/
structure IsPass (v : Value) (r : PassRecord) : Prop where
  room : v.HasRoom 2 3
  code : Given IsText (v.slot? "type" 0) r.code
  cancelled : Given IsFlag (v.slot? "cancelled" 1) r.cancelled
  actual : Omissible IsActual (v.slot? "actual_data" 2) r.actual

/-- The value is the details of this train. -/
structure IsTrain (v : Value) (r : TrainRecord) : Prop where
  room : v.HasRoom 3 9
  line : Given IsText (v.slot? "line" 0) r.line
  number : Given IsText (v.slot? "train_name" 1) r.number
  direction : Given IsText (v.slot? "direction" 2) r.direction
  status : Omissible IsText (v.slot? "status" 3) r.status
  delay : Omissible IsWhole (v.slot? "delay" 4) r.delay
  suppressionStart : Omissible IsText (v.slot? "suppression_start" 5) r.suppressionStart
  suppressionStartId : Omissible IsText (v.slot? "suppression_start_mir" 6) r.suppressionStartId
  suppressionEnd : Omissible IsText (v.slot? "suppression_end" 7) r.suppressionEnd
  suppressionEndId : Omissible IsText (v.slot? "suppression_end_mir" 8) r.suppressionEndId

/-- The value is this journey. -/
structure IsJourney (v : Value) (r : JourneyRecord) : Prop where
  room : v.HasRoom 2 2
  train : Given IsTrain (v.slot? "train" 0) r.train
  passes : Given (IsList IsPass) (v.slot? "pass_list" 1) r.passes

/-- The value is this station. A list for it has two elements, the name may only be null there. -/
structure IsStation (v : Value) (r : StationRecord) : Prop where
  room : v.HasRoom 2 2
  id : Given IsText (v.slot? "station_id" 0) r.id
  name : Omissible IsText (v.slot? "station_ori_name" 1) r.name

/-- The value is this day. -/
structure IsDay (v : Value) (r : DayRecord) : Prop where
  room : v.HasRoom 7 7
  date : Given IsText (v.slot? "date" 0) r.date
  departureTime : Given IsText (v.slot? "dep_time" 1) r.departureTime
  arrivalTime : Given IsText (v.slot? "arr_time" 2) r.arrivalTime
  departureStation : Given IsStation (v.slot? "dep_station" 3) r.departureStation
  arrivalStation : Given IsStation (v.slot? "arr_station" 4) r.arrivalStation
  cancelled : Given IsFlag (v.slot? "cancelled" 5) r.cancelled
  journeys : Given (IsList IsJourney) (v.slot? "journey_list" 6) r.journeys

/-- The value is a payload of these days. -/
def IsPayload : Value → List DayRecord → Prop := IsList IsDay

/-! ### Shapes that mirror a format -/

section Mirrors

variable {α β : Type} {make : β → α} {fits : Value → β → Prop} {holds : Value → α → Prop}

/-- The records that a value holds are those made of the data that it fits. -/
def Mirrors (make : β → α) (fits : Value → β → Prop) (holds : Value → α → Prop) : Prop :=
  ∀ v record, holds v record ↔ ∃ data, make data = record ∧ fits v data

theorem Mirrors.given (h : Mirrors make fits holds) {slot : Option Value} {record : α} :
    Given holds slot record ↔ ∃ data, make data = record ∧ Given fits slot data := by
  constructor
  · rintro ⟨v, hslot, hv⟩
    obtain ⟨data, hdata, hfits⟩ := (h v record).mp hv
    exact ⟨data, hdata, v, hslot, hfits⟩
  · rintro ⟨data, hdata, v, hslot, hfits⟩
    exact ⟨v, hslot, (h v record).mpr ⟨data, hdata, hfits⟩⟩

theorem Mirrors.omissible (h : Mirrors make fits holds) {slot : Option Value} {record : Option α} :
    Omissible holds slot record ↔
      ∃ data, Option.map make data = record ∧ Omissible fits slot data := by
  cases record with
  | none =>
      constructor
      · exact fun hslot => ⟨none, rfl, hslot⟩
      · rintro ⟨data, hdata, hslot⟩
        obtain rfl := Option.map_eq_none_iff.mp hdata
        exact hslot
  | some record =>
      constructor
      · intro hslot
        obtain ⟨data, hdata, hfits⟩ := h.given.mp hslot
        exact ⟨some data, congrArg some hdata, hfits⟩
      · rintro ⟨data, hdata, hfits⟩
        obtain ⟨data, rfl, hrecord⟩ := Option.map_eq_some_iff.mp hdata
        exact h.given.mpr ⟨data, hrecord, hfits⟩

theorem Mirrors.forall₂ (h : Mirrors make fits holds) {vs : List Value} {records : List α} :
    List.Forall₂ holds vs records ↔
      ∃ data, data.map make = records ∧ List.Forall₂ fits vs data := by
  induction vs generalizing records with
  | nil =>
      simp only [List.forall₂_nil_left_iff]
      constructor
      · rintro rfl
        exact ⟨[], rfl, rfl⟩
      · rintro ⟨data, rfl, rfl⟩
        rfl
  | cons v vs ih =>
      simp only [List.forall₂_cons_left_iff, ih]
      constructor
      · rintro ⟨record, records, hv, ⟨data, rfl, hvs⟩, rfl⟩
        obtain ⟨first, rfl, hfirst⟩ := (h v record).mp hv
        exact ⟨first :: data, rfl, first, data, hfirst, hvs, rfl⟩
      · rintro ⟨_, rfl, first, data, hfirst, hvs, rfl⟩
        exact ⟨make first, data.map make, (h v _).mpr ⟨first, rfl, hfirst⟩, ⟨data, rfl, hvs⟩, rfl⟩

theorem Mirrors.list (h : Mirrors make fits holds) :
    Mirrors (List.map make) (IsList fits) (IsList holds) := by
  intro v records
  constructor
  · rintro ⟨vs, rfl, hvs⟩
    obtain ⟨data, hdata, hfits⟩ := h.forall₂.mp hvs
    exact ⟨data, hdata, vs, rfl, hfits⟩
  · rintro ⟨data, hdata, vs, rfl, hfits⟩
    exact ⟨vs, rfl, h.forall₂.mpr ⟨data, hdata, hfits⟩⟩

end Mirrors

theorem mirrors_actual :
    Mirrors ActualRecord.ofDatum ActualRecord.shape.Fits IsActual := by
  intro v r
  constructor
  · intro h
    exact ⟨(r.stationId, r.stationName, ()), rfl, h.room, h.stationId, h.stationName, trivial⟩
  · rintro ⟨⟨id, name, _⟩, rfl, hroom, hid, hname, -⟩
    exact ⟨hroom, hid, hname⟩

theorem mirrors_pass : Mirrors PassRecord.ofDatum PassRecord.shape.Fits IsPass := by
  intro v r
  constructor
  · rintro ⟨hroom, hcode, hcancelled, hactual⟩
    obtain ⟨actual, heq, hactual⟩ := mirrors_actual.omissible.mp hactual
    refine ⟨(r.code, r.cancelled, actual, ()), ?_, hroom, hcode, hcancelled, hactual, trivial⟩
    exact congrArg (PassRecord.mk r.code r.cancelled) heq
  · rintro ⟨⟨code, cancelled, actual, _⟩, rfl, hroom, hcode, hcancelled, hactual, -⟩
    exact ⟨hroom, hcode, hcancelled, mirrors_actual.omissible.mpr ⟨actual, rfl, hactual⟩⟩

theorem mirrors_train : Mirrors TrainRecord.ofDatum TrainRecord.shape.Fits IsTrain := by
  intro v r
  constructor
  · intro h
    exact ⟨(r.line, r.number, r.direction, r.status, r.delay, r.suppressionStart,
      r.suppressionStartId, r.suppressionEnd, r.suppressionEndId, ()), rfl, h.room, h.line,
      h.number, h.direction, h.status, h.delay, h.suppressionStart, h.suppressionStartId,
      h.suppressionEnd, h.suppressionEndId, trivial⟩
  · rintro ⟨⟨line, number, direction, status, delay, start, startId, last, lastId, _⟩, rfl, hroom,
      hline, hnumber, hdirection, hstatus, hdelay, hstart, hstartId, hlast, hlastId, -⟩
    exact ⟨hroom, hline, hnumber, hdirection, hstatus, hdelay, hstart, hstartId, hlast, hlastId⟩

theorem mirrors_journey : Mirrors JourneyRecord.ofDatum JourneyRecord.shape.Fits IsJourney := by
  intro v r
  constructor
  · rintro ⟨hroom, htrain, hpasses⟩
    obtain ⟨train, htrainEq, htrain⟩ := mirrors_train.given.mp htrain
    obtain ⟨passes, hpassesEq, hpasses⟩ := mirrors_pass.list.given.mp hpasses
    refine ⟨(train, passes, ()), ?_, hroom, htrain, hpasses, trivial⟩
    exact congrArg₂ JourneyRecord.mk htrainEq hpassesEq
  · rintro ⟨⟨train, passes, _⟩, rfl, hroom, htrain, hpasses, -⟩
    exact ⟨hroom, mirrors_train.given.mpr ⟨train, rfl, htrain⟩,
      mirrors_pass.list.given.mpr ⟨passes, rfl, hpasses⟩⟩

theorem mirrors_station : Mirrors StationRecord.ofDatum StationRecord.shape.Fits IsStation := by
  intro v r
  constructor
  · intro h
    exact ⟨(r.id, r.name, ()), rfl, h.room, h.id, h.name, trivial⟩
  · rintro ⟨⟨id, name, _⟩, rfl, hroom, hid, hname, -⟩
    exact ⟨hroom, hid, hname⟩

theorem mirrors_day : Mirrors DayRecord.ofDatum DayRecord.shape.Fits IsDay := by
  intro v r
  constructor
  · intro h
    obtain ⟨origin, horiginEq, horigin⟩ := mirrors_station.given.mp h.departureStation
    obtain ⟨last, hlastEq, hlast⟩ := mirrors_station.given.mp h.arrivalStation
    obtain ⟨journeys, hjourneysEq, hjourneys⟩ := mirrors_journey.list.given.mp h.journeys
    refine ⟨(r.date, r.departureTime, r.arrivalTime, origin, last, r.cancelled, journeys, ()), ?_,
      h.room, h.date, h.departureTime, h.arrivalTime, horigin, hlast, h.cancelled, hjourneys,
      trivial⟩
    show DayRecord.mk r.date r.departureTime r.arrivalTime (StationRecord.ofDatum origin)
      (StationRecord.ofDatum last) r.cancelled (List.map JourneyRecord.ofDatum journeys) = r
    rw [horiginEq, hlastEq, hjourneysEq]
  · rintro ⟨⟨date, departure, arrival, origin, last, cancelled, journeys, _⟩, rfl, hroom, hdate,
      hdeparture, harrival, horigin, hlast, hcancelled, hjourneys, -⟩
    exact ⟨hroom, hdate, hdeparture, harrival, mirrors_station.given.mpr ⟨origin, rfl, horigin⟩,
      mirrors_station.given.mpr ⟨last, rfl, hlast⟩, hcancelled,
      mirrors_journey.list.given.mpr ⟨journeys, rfl, hjourneys⟩⟩

theorem separate_payloadShape : payloadShape.separate = true := by decide

/-- **A value is decoded to days exactly if it is a payload of these days.** -/
theorem decodeDays_eq_ok_iff {v : Value} {days : List DayRecord} :
    decodeDays v = .ok days ↔ IsPayload v days := by
  refine map_eq_ok_iff.trans (Iff.trans ?_ (mirrors_day.list v days).symm)
  exact exists_congr fun data =>
    and_congr_right' (payloadShape.decode_eq_ok_iff separate_payloadShape v data)

end RailWatch.Payload

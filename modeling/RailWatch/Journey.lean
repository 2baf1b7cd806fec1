import RailWatch.Payload.Record
import RailWatch.Text.LetterCase
import RailWatch.Timetable
import RailWatch.Train
/-!
# RailWatch.Journey

From a payload to a snapshot of the train.

Only the first day of a payload counts, and of that day only the first journey. Optional fields have
defaults; what else is missing is a `PayloadError`. An empty payload is no error: the train does
not run that day.

The point where the train is, is the last one of the **confirmed prefix** of the passes. Passes are
confirmed in order, so what is confirmed after a gap does not count.
-/

namespace RailWatch

open Payload Json Text

/-- A field that a conversion needs and the format does not require. -/
inductive NeededField
  | journey
  | departureName
  | suppressionStartId
  | suppressionEndId
  | suppressionEnd
deriving DecidableEq

/-- Where the field is found. -/
def NeededField.path : NeededField → String
  | journey => "journey_list[0]"
  | departureName => "dep_station.station_ori_name"
  | suppressionStartId => "suppression_start_mir"
  | suppressionEndId => "suppression_end_mir"
  | suppressionEnd => "suppression_end"

/-- Why a payload gives no snapshot. -/
inductive PayloadError
  /-- The text is not JSON, or not of the shape of a payload. -/
  | unreadable (fault : Fault) (text : String)
  /-- The value is not of the shape of a payload. -/
  | misshapen (mismatch : Mismatch)
  /-- A needed field is missing. -/
  | missingField (field : NeededField)
  /-- A date or a time is wrong. -/
  | badTime (error : TimeError)
deriving DecidableEq

namespace PayloadError

/-- The number of characters of a text that an error keeps. -/
def keptLength : Nat := 500

/-- The error in words. -/
def message : PayloadError → String
  | unreadable fault text => "JSON parse error: " ++ fault.message text.toList
  | misshapen mismatch => "JSON parse error: " ++ mismatch.message
  | missingField field => "missing required field: " ++ field.path
  | badTime error => error.message

/-- The beginning of the text that could not be read. -/
def body? : PayloadError → Option String
  | unreadable _ text => some (String.ofList (text.toList.take keptLength))
  | _ => none

/-- Whether the payload was not of the shape of one. -/
def isShape : PayloadError → Bool
  | unreadable _ _ | misshapen _ => true
  | _ => false

end PayloadError

/-- What a payload says about a train. -/
inductive Outcome
  /-- The train runs. -/
  | found (train : Train)
  /-- The train does not run that day. -/
  | notFound
deriving DecidableEq

/-- Id and name of the station of a confirmed pass: one that is not cancelled and has both. -/
def Payload.PassRecord.confirmed? (p : PassRecord) : Option (String × String) :=
  if p.cancelled then none
  else
    match p.actual with
    | some ⟨some id, some name⟩ => some (id, name)
    | _ => none

namespace Journey

/-- The passes up to the first one that is not confirmed. -/
def confirmedPrefix (passes : List PassRecord) : List PassRecord :=
  passes.takeWhile fun p => p.confirmed?.isSome

/-- The last confirmed pass before any that is not. -/
def position? (passes : List PassRecord) : Option Position :=
  (confirmedPrefix passes).getLast?.bind fun p =>
    p.confirmed?.map fun (id, name) => ⟨id, name, StopRole.ofCode p.code, none, none⟩

/-- The suppression of a train, which there is if its first station has a name; the other three
fields are needed then. -/
def suppression? (t : TrainRecord) : Except NeededField (Option Suppression) :=
  match t.suppressionStart with
  | none => .ok none
  | some fromName =>
    match t.suppressionStartId, t.suppressionEndId, t.suppressionEnd with
    | none, _, _ => .error .suppressionStartId
    | _, none, _ => .error .suppressionEndId
    | _, _, none => .error .suppressionEnd
    | some fromId, some toId, some toName => .ok (some ⟨fromId, fromName, toId, toName⟩)

/-- The greatest delay that is shown. -/
def maxDelay : Int := 4294967295

/-- The delay that is shown: none when it is not known or the train is ahead of time. -/
def shownDelay (delay : Option Int) : Nat :=
  (min (max (delay.getD 0) 0) maxDelay).toNat

/-- The name of a train: line and number, time and place of departure, direction. -/
def displayName (t : TrainRecord) (departure : Instant) (departureName : String) : String :=
  t.line ++ " " ++ t.number ++ " - " ++ (Zone.Rome.reading departure).clock.shortText ++ " da " ++
    departureName ++ " per " ++ capitalize t.direction

/-- The snapshot that a day gives. -/
def ofDay (id : String) (day : DayRecord) : Except PayloadError Train :=
  match day.journeys with
  | [] => .error (.missingField .journey)
  | journey :: _ =>
    match Timetable.journeyTimes day.date day.departureTime day.arrivalTime with
    | .error e => .error (.badTime e)
    | .ok (departure, arrival) =>
      match day.departureStation.name with
      | none => .error (.missingField .departureName)
      | some name =>
        match suppression? journey.train with
        | .error field => .error (.missingField field)
        | .ok suppression =>
          let departureName := capitalize name
          let position := position? journey.passes
          .ok
            { id
              name := displayName journey.train departure departureName
              status :=
                Status.classify position suppression day.cancelled journey.train.status
                  day.departureStation.id day.arrivalStation.id
              delay := shownDelay journey.train.delay
              departure
              departureId := day.departureStation.id
              departureName
              arrival
              arrivalId := day.arrivalStation.id
              suppression
              position }

/-- What the days of a payload say about a train. -/
def ofDays (id : String) (days : List DayRecord) : Except PayloadError Outcome :=
  match days with
  | [] => .ok .notFound
  | day :: _ => (ofDay id day).map .found

/-- What a payload text says about a train. -/
def ofText (id : String) (text : String) : Except PayloadError Outcome :=
  match readDays text.toList with
  | .error fault => .error (.unreadable fault text)
  | .ok days => ofDays id days

/-- What a payload value says about a train. -/
def ofValue (id : String) (v : Value) : Except PayloadError Outcome :=
  match decodeDays v with
  | .error mismatch => .error (.misshapen mismatch)
  | .ok days => ofDays id days

end Journey
end RailWatch

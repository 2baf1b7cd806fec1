import RailWatch.Payload.Scan
import RailWatch.Payload.Decode
/-!
# RailWatch.Payload.Record

The records of a payload.

A payload is a list of **days** on which a train runs. A day names the service date, the two ends
of the journey and the list of journeys; a journey holds the details of the train and the
**passes**, the points it goes through, from origin to destination. Each record comes with its
shape and with the record that the data of the shape make up.
-/

namespace RailWatch.Payload

open Json

/-- What is known about a pass once the train has reported there. -/
structure ActualRecord where
  stationId : Option String
  stationName : Option String
deriving DecidableEq

/-- A point that the train goes through. -/
structure PassRecord where
  /-- `O` for the origin, `D` for the destination, anything else for a stop. -/
  code : String
  cancelled : Bool
  actual : Option ActualRecord
deriving DecidableEq

/-- The details of a train. -/
structure TrainRecord where
  line : String
  number : String
  direction : String
  /-- The raw status, `V` for a running train. -/
  status : Option String
  /-- The delay in minutes, negative for a train ahead of time. -/
  delay : Option Int
  /-- Name and id of the first suppressed station. -/
  suppressionStart : Option String
  suppressionStartId : Option String
  /-- Name and id of the last suppressed station. -/
  suppressionEnd : Option String
  suppressionEndId : Option String
deriving DecidableEq

/-- A journey of a train. -/
structure JourneyRecord where
  train : TrainRecord
  passes : List PassRecord
deriving DecidableEq

/-- The station at one end of a journey. -/
structure StationRecord where
  id : String
  name : Option String
deriving DecidableEq

/-- A day on which a train runs. -/
structure DayRecord where
  date : String
  departureTime : String
  arrivalTime : String
  departureStation : StationRecord
  arrivalStation : StationRecord
  /-- Whether the whole journey is cancelled. -/
  cancelled : Bool
  journeys : List JourneyRecord
deriving DecidableEq

/-! ## Shapes -/

/-- The shape of what is known about a pass. -/
def ActualRecord.shape : Shape :=
  .record "ActualData" <|
    .cons "actual_station_mir" .optional .text <|
    .cons "actual_station_name" .optional .text .nil

/-- The shape of a pass. -/
def PassRecord.shape : Shape :=
  .record "PassPoint" <|
    .cons "type" .required .text <|
    .cons "cancelled" .required .flag <|
    .cons "actual_data" .optional ActualRecord.shape .nil

/-- The shape of the details of a train. -/
def TrainRecord.shape : Shape :=
  .record "TrainInfo" <|
    .cons "line" .required .text <|
    .cons "train_name" .required .text <|
    .cons "direction" .required .text <|
    .cons "status" .optional .text <|
    .cons "delay" .optional .whole <|
    .cons "suppression_start" .optional .text <|
    .cons "suppression_start_mir" .optional .text <|
    .cons "suppression_end" .optional .text <|
    .cons "suppression_end_mir" .optional .text .nil

/-- The shape of a journey. -/
def JourneyRecord.shape : Shape :=
  .record "JourneyEntry" <|
    .cons "train" .required TrainRecord.shape <|
    .cons "pass_list" .required (.list PassRecord.shape) .nil

/-- The shape of a station. -/
def StationRecord.shape : Shape :=
  .record "StationRef" <|
    .cons "station_id" .required .text <|
    .cons "station_ori_name" .nullable .text .nil

/-- The shape of a day. -/
def DayRecord.shape : Shape :=
  .record "JourneyDay" <|
    .cons "date" .required .text <|
    .cons "dep_time" .required .text <|
    .cons "arr_time" .required .text <|
    .cons "dep_station" .required StationRecord.shape <|
    .cons "arr_station" .required StationRecord.shape <|
    .cons "cancelled" .required .flag <|
    .cons "journey_list" .required (.list JourneyRecord.shape) .nil

/-- The shape of a payload. -/
def payloadShape : Shape := .list DayRecord.shape

/-! ## Records from data -/

/-- The record that the data make up. -/
def ActualRecord.ofDatum : ActualRecord.shape.Datum → ActualRecord
  | (stationId, stationName, ()) => ⟨stationId, stationName⟩

/-- The record that the data make up. -/
def PassRecord.ofDatum : PassRecord.shape.Datum → PassRecord
  | (code, cancelled, actual, ()) =>
    ⟨code, cancelled, Option.map ActualRecord.ofDatum actual⟩

/-- The record that the data make up. -/
def TrainRecord.ofDatum : TrainRecord.shape.Datum → TrainRecord
  | (line, number, direction, status, delay, start, startId, last, lastId, ()) =>
    ⟨line, number, direction, status, delay, start, startId, last, lastId⟩

/-- The record that the data make up. -/
def JourneyRecord.ofDatum : JourneyRecord.shape.Datum → JourneyRecord
  | (train, passes, ()) => ⟨TrainRecord.ofDatum train, List.map PassRecord.ofDatum passes⟩

/-- The record that the data make up. -/
def StationRecord.ofDatum : StationRecord.shape.Datum → StationRecord
  | (id, name, ()) => ⟨id, name⟩

/-- The record that the data make up. -/
def DayRecord.ofDatum : DayRecord.shape.Datum → DayRecord
  | (date, departure, arrival, origin, destination, cancelled, journeys, ()) =>
    ⟨date, departure, arrival, StationRecord.ofDatum origin, StationRecord.ofDatum destination,
      cancelled, List.map JourneyRecord.ofDatum journeys⟩

/-! ## Readers -/

/-- The days that a payload text lists. -/
def readDays (text : List Char) : Except Fault (List DayRecord) :=
  (payloadShape.read text).map (List.map DayRecord.ofDatum)

/-- The days that a payload value lists. -/
def decodeDays (v : Value) : Except Mismatch (List DayRecord) :=
  (payloadShape.decode v).map (List.map DayRecord.ofDatum)

/-- The details of a train from a value. -/
def decodeTrain (v : Value) : Except Mismatch TrainRecord :=
  (TrainRecord.shape.decode v).map TrainRecord.ofDatum

/-- A list of passes from a value. -/
def decodePasses (v : Value) : Except Mismatch (List PassRecord) :=
  ((Shape.list PassRecord.shape).decode v).map (List.map PassRecord.ofDatum)

end RailWatch.Payload

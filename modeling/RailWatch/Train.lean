import RailWatch.Instant
/-!
# RailWatch.Train

One **snapshot** of a train: what was known about it after one accepted fetch. A later snapshot
replaces the whole of it.

The **status** is worked out from four signals that overlap, by `Status.classify`, in a fixed order
of precedence: arrival at the destination, suppression of the whole route, the cancelled mark, the
raw status. Delay and suppression are shown only up to the scheduled arrival.
-/

namespace RailWatch

/-- What a train is doing, as far as the signals tell. -/
inductive Status
  /-- Not running yet, arrived, or no usable signal. -/
  | idle
  /-- Reported as running. -/
  | travelling
  /-- Cancelled for the whole journey. -/
  | cancelled
deriving DecidableEq

/-- The label of a status. -/
def Status.label : Status → String
  | idle => "NONE"
  | travelling => "TRAVELLING"
  | cancelled => "CANCELLED"

/-- The role of a point within a journey. -/
inductive StopRole
  | origin
  | stop
  | destination
deriving DecidableEq

/-- The role that a code stands for. Whatever is neither origin nor destination is a stop. -/
def StopRole.ofCode (code : String) : StopRole :=
  if code = "O" then .origin
  else if code = "D" then .destination
  else .stop

/-- A cancelled leg between two stations, of the whole journey or part of it. -/
structure Suppression where
  fromId : String
  fromName : String
  toId : String
  toName : String
deriving DecidableEq

/-- Whether the leg is the journey between these two stations. -/
def Suppression.covers (s : Suppression) (departureId arrivalId : String) : Bool :=
  s.fromId = departureId && s.toId = arrivalId

/-- The last point that the train has confirmed. -/
structure Position where
  stationId : String
  name : String
  role : StopRole
  arrival : Option Instant
  departure : Option Instant
deriving DecidableEq

/-- The raw status of a running train. -/
def runningCode : String := "V"

/-- The status that the signals add up to. A train confirmed at its destination has arrived,
whatever the other signals say; a cancelled one does not travel. -/
def Status.classify (position : Option Position) (suppression : Option Suppression)
    (cancelled : Bool) (raw : Option String) (departureId arrivalId : String) : Status :=
  if position.any fun p => p.role = .destination then .idle
  else if suppression.any fun s => s.covers departureId arrivalId then .cancelled
  else if cancelled then .cancelled
  else if raw = some runningCode then .travelling
  else .idle

/-- One snapshot of a train. -/
structure Train where
  id : String
  /-- The name that is shown. -/
  name : String
  status : Status
  /-- The delay in minutes. -/
  delay : Nat
  departure : Instant
  departureId : String
  departureName : String
  arrival : Instant
  arrivalId : String
  suppression : Option Suppression
  position : Option Position
deriving DecidableEq

namespace Train

/-- Whether the scheduled arrival is past. -/
def hasArrived (t : Train) (now : Instant) : Bool :=
  t.arrival ≤ now

/-- The delay to show. -/
def delayAt (t : Train) (now : Instant) : Nat :=
  if t.hasArrived now then 0 else t.delay

/-- The suppression to show. -/
def suppressionAt (t : Train) (now : Instant) : Option Suppression :=
  if t.hasArrived now then none else t.suppression

/-- Whether the whole route is suppressed. -/
def isFullySuppressed (t : Train) : Bool :=
  t.suppression.any fun s => s.covers t.departureId t.arrivalId

end Train
end RailWatch

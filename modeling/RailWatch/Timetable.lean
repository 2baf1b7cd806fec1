import RailWatch.Calendar.Written
import RailWatch.Zone.Rome
/-!
# RailWatch.Timetable

The scheduled times of a journey, from the texts that a payload gives to instants.

A payload names one service date per journey. An arrival whose time of day is earlier than that of
the departure is one on the following day. Local times are Italian civil time: the earlier of two
instants when clocks are put back, none when they are put forward.
-/

namespace RailWatch

/-- Why the times of a journey could not be worked out. -/
inductive TimeError
  /-- The text is no service date. -/
  | notADate (text : String)
  /-- The text is no time of day. -/
  | notAClock (text : String)
  /-- The day after the last one would be needed. -/
  | pastLastDay (text : String)
  /-- No instant has this reading: it was skipped when clocks were put forward. -/
  | noSuchTime (reading : Reading)
deriving DecidableEq

namespace TimeError

/-- What was wrong. -/
def reason : TimeError → String
  | notADate _ => "expected YYYYMMDD"
  | notAClock _ => "expected HH:MM:SS"
  | pastLastDay _ => "date out of range"
  | noSuchTime _ => "local time does not exist in Europe/Rome"

/-- The text it was wrong with. -/
def subject : TimeError → String
  | notADate text | notAClock text | pastLastDay text => text
  | noSuchTime reading => reading.text

/-- The error in words. -/
def message (e : TimeError) : String :=
  "invalid time: " ++ e.reason ++ " (" ++ e.subject ++ ")"

end TimeError

namespace Timetable

/-- The service date that a text writes. -/
def serviceDate (text : String) : Except TimeError Date :=
  match Date.read text.toList with
  | some d => .ok d
  | none => .error (.notADate text)

/-- The time of day that a text writes. -/
def clockTime (text : String) : Except TimeError Clock :=
  match Clock.read text.toList with
  | some c => .ok c
  | none => .error (.notAClock text)

/-- The earliest instant at which a clock in Italy shows this date and time. -/
def localize (date : Date) (clock : Clock) : Except TimeError Instant :=
  match Zone.Rome.earliest? ⟨date, clock⟩ with
  | some i => .ok i
  | none => .error (.noSuchTime ⟨date, clock⟩)

/-- The day of the arrival: the following one if its time of day is before that of the departure. -/
def arrivalDay (text : String) (day : Date) (departure arrival : Clock) : Except TimeError Date :=
  if arrival.before departure then
    if day.next.inRange then .ok day.next else .error (.pastLastDay text)
  else .ok day

/-- Departure and arrival of a journey from its service date and its two times of day. -/
def journeyTimes (date departure arrival : String) : Except TimeError (Instant × Instant) := do
  let day ← serviceDate date
  let dep ← clockTime departure
  let arr ← clockTime arrival
  let last ← arrivalDay date day dep arr
  return (← localize day dep, ← localize last arr)

end Timetable
end RailWatch

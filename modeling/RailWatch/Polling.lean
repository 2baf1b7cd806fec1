import RailWatch.Zone.Rome
/-!
# RailWatch.Polling

When a fetch is worth its while.

Long before the departure and some time after the arrival nothing changes, and ticks that fall
there are skipped. A `PollWindow` says how long before and how long after; `PollWindow.decide`
gives the **decision** for a tick, with its reason.
-/

namespace RailWatch

/-- What to do on a tick, and why. -/
inductive PollDecision
  /-- The known schedule is not that of today. -/
  | dayChanged
  /-- Nothing was fetched yet. -/
  | firstPoll
  /-- The departure is near. -/
  | nearDeparture
  /-- The departure is too far ahead. -/
  | tooEarly
  /-- The arrival was a short time ago. -/
  | settling
  /-- The arrival was long ago. -/
  | tooLate
  /-- Between departure and arrival. -/
  | enRoute
deriving DecidableEq

namespace PollDecision

/-- Whether the decision is to fetch. -/
def polls : PollDecision → Bool
  | tooEarly | tooLate => false
  | _ => true

/-- The name of a decision. -/
def label : PollDecision → String
  | dayChanged => "DayChanged"
  | firstPoll => "FirstPoll"
  | nearDeparture => "NearDeparture"
  | tooEarly => "TooEarly"
  | settling => "SettlingAfterArrival"
  | tooLate => "TooLate"
  | enRoute => "EnRoute"

end PollDecision

/-- The time around a journey in which polling goes on. -/
structure PollWindow where
  /-- Polling starts when the departure is less than this ahead. -/
  before : Span
  /-- Polling goes on as long as the arrival is less than this ago. -/
  after : Span
deriving DecidableEq

namespace PollWindow

/-- The window with so many minutes before the departure and after the arrival. -/
def ofMinutes (before after : Int) : PollWindow :=
  ⟨Span.ofMinutes before, Span.ofMinutes after⟩

/-- Half an hour before, ten minutes after. -/
def standard : PollWindow := ofMinutes 30 10

/-- The decision for a tick at `now`, given the schedule and whether there is a snapshot. -/
def decide (w : PollWindow) (now departure arrival : Instant) (hasSnapshot : Bool) :
    PollDecision :=
  if !Zone.Rome.sameDay now departure then .dayChanged
  else if !hasSnapshot then .firstPoll
  else if now < departure then
    if departure.since now < w.before then .nearDeparture else .tooEarly
  else if arrival < now then
    if now.since arrival < w.after then .settling else .tooLate
  else .enRoute

/-- Whether a tick at `now` is to fetch. -/
def shouldPoll (w : PollWindow) (now departure arrival : Instant) (hasSnapshot : Bool) : Bool :=
  (w.decide now departure arrival hasSnapshot).polls

end PollWindow
end RailWatch

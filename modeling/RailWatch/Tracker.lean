import RailWatch.Fetch
import RailWatch.Polling
/-!
# RailWatch.Tracker

The state machine that follows one train.

A **tracker** is idle or waits for a fetch. `Tracker.tick` asks the polling window whether a fetch
is worth its while, and `Tracker.complete` folds what came of a fetch into the last accepted
snapshot and says what to tell the subscribers. Only a snapshot that was found changes what the
tracker knows; everything else leaves it as it was.
-/

namespace RailWatch

/-- How one train is followed. -/
structure TrackerConfig where
  trainId : String
  /-- The departure, if it is known beforehand. -/
  departure : Option Instant
  /-- The arrival, if it is known beforehand. -/
  arrival : Option Instant
  /-- The time between ticks. -/
  interval : Duration
  /-- The time that a fetch may take. -/
  budget : Duration
  window : PollWindow
deriving DecidableEq

namespace TrackerConfig

/-- The usual time between ticks. -/
def standardInterval : Duration := .ofSeconds 60

/-- The time that a fetch may usually take. -/
def standardBudget : Duration := .ofSeconds 30

/-- The usual way to follow a train of which nothing else is known. -/
def ofId (trainId : String) : TrackerConfig :=
  ⟨trainId, none, none, standardInterval, standardBudget, .standard⟩

/-- The same with a known schedule. -/
def withSchedule (c : TrackerConfig) (departure arrival : Instant) : TrackerConfig :=
  { c with departure := some departure, arrival := some arrival }

/-- The usual way to follow a train that was looked up. -/
def ofTrain (t : Train) : TrackerConfig :=
  (ofId t.id).withSchedule t.departure t.arrival

end TrackerConfig

/-- What subscribers are told. -/
inductive Update
  /-- A new snapshot was accepted. -/
  | snapshot (train : Train)
  /-- Nothing is new since the last accepted snapshot, if there is one. -/
  | unchanged (train : Option Train)
  /-- A fetch failed; the next one may go better. -/
  | retryable (reason : String)
  /-- A payload was not of the form expected. -/
  | fatal (reason : String)
deriving DecidableEq

/-- Whether a fetch is outstanding. -/
inductive Phase
  | idle
  | fetching
deriving DecidableEq

/-- What to do after a tick. -/
inductive TickAction
  /-- Nothing: a fetch is outstanding. -/
  | busy
  /-- No fetch; tell the subscribers. -/
  | publish (update : Update)
  /-- Start a fetch for this day. -/
  | fetch (date : Date)
deriving DecidableEq

/-- The state of following one train. -/
structure Tracker where
  config : TrackerConfig
  phase : Phase
  /-- The last accepted snapshot. -/
  snapshot : Option Train
  departure : Option Instant
  arrival : Option Instant
deriving DecidableEq

namespace Tracker

/-- An idle tracker without a snapshot. -/
def new (config : TrackerConfig) : Tracker :=
  ⟨config, .idle, none, config.departure, config.arrival⟩

/-- An idle tracker that starts out with a snapshot and its schedule. -/
def withSnapshot (config : TrackerConfig) (train : Train) : Tracker :=
  { new (config.withSchedule train.departure train.arrival) with snapshot := some train }

/-- Departure and arrival, if both are known. -/
def schedule (t : Tracker) : Option (Instant × Instant) :=
  match t.departure, t.arrival with
  | some departure, some arrival => some (departure, arrival)
  | _, _ => none

/-- Whether an idle tracker fetches at `now`. Without a schedule it always does. -/
def wantsFetch (t : Tracker) (now : Instant) : Bool :=
  match t.schedule with
  | some (departure, arrival) =>
    t.config.window.shouldPoll now departure arrival t.snapshot.isSome
  | none => true

/-- A tick at `now`. -/
def tick (t : Tracker) (now : Instant) : Tracker × TickAction :=
  match t.phase with
  | .fetching => (t, .busy)
  | .idle =>
    if t.wantsFetch now then ({ t with phase := .fetching }, .fetch (Zone.Rome.date now))
    else (t, .publish (.unchanged t.snapshot))

/-- The tracker after a snapshot was accepted. -/
def accept (t : Tracker) (train : Train) : Tracker :=
  { t with
    snapshot := some train
    departure := some train.departure
    arrival := some train.arrival }

/-- The end of a fetch. -/
def complete (t : Tracker) (result : FetchResult) : Tracker × Update :=
  let t := { t with phase := .idle }
  match result with
  | .ok (.found train) => (t.accept train, .snapshot train)
  | .ok .notFound => (t, .unchanged t.snapshot)
  | .error failure =>
    (t, if failure.isRetryable then .retryable failure.message else .fatal failure.message)

/-- Gives up an outstanding fetch. -/
def abandon (t : Tracker) : Tracker :=
  { t with phase := .idle }

end Tracker
end RailWatch

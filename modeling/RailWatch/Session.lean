import RailWatch.Log
import RailWatch.Settings
import RailWatch.Source.Directory
import RailWatch.Tracker.Loop
/-!
# RailWatch.Session

One run of the tracker, from the environment to the last record.

A session reads its settings, sets up the source of payloads, looks the train up once if its
schedule is not known, and then runs the loop; what subscribers are told is written down. The world
outside is a `Host`, so that a session can be run on a clock and a network of any kind.
-/

namespace RailWatch

/-- What a session needs from the world outside. -/
structure Host (m : Type → Type) where
  /-- The time. -/
  now : m Instant
  /-- The items of a directory. -/
  list : String → m (Except ListingError Listing)
  /-- What comes of a request to a server. -/
  exchange : Exchange m
  /-- Writes a record down. -/
  emit : LogRecord → m Unit

/-- Where payloads come from. -/
inductive Source
  | canned (shelf : Shelf)
  | live (server : Server)

namespace Session

/-- The target of the session itself. -/
def mainTarget : String := "train_tracker"

/-- The target of the tracker. -/
def trackerTarget : String := "train_tracker::coordinator"

/-- The target of the live source. -/
def serverTarget : String := "train_tracker::trenord::client"

/-- The field for the train. -/
def trainField (id : String) : LogField := .plain "train_id" id

/-- The field for what went wrong. -/
def errorField (message : String) : LogField := .plain "error" message

/-- The fields for name and status of a train. -/
def nameFields (t : Train) : List LogField :=
  [.plain "name" t.name, .plain "status" t.status.label]

/-- What stands for a value that there is none of. -/
def absent : String := "-"

/-- A suppression in short. -/
def suppressionText (s : Suppression) : String :=
  s.fromName ++ " -> " ++ s.toName

/-- The record of a snapshot, as it is to be shown at an instant. -/
def snapshotRecord (now : Instant) (t : Train) : LogRecord :=
  ⟨.info, mainTarget, "snapshot",
    nameFields t ++
      [.plain "delay" (Text.padded 1 (t.delayAt now)),
        .quoted "current_station" ((t.position.map (·.name)).getD absent),
        .quoted "suppression" (((t.suppressionAt now).map suppressionText).getD absent)]⟩

/-- The record of an update. -/
def updateRecord (now : Instant) : Update → LogRecord
  | .snapshot t => snapshotRecord now t
  | .unchanged (some t) => ⟨.info, mainTarget, "unchanged", nameFields t⟩
  | .unchanged none => ⟨.info, mainTarget, "no data yet", []⟩
  | .retryable reason =>
    ⟨.warn, mainTarget, "update failed, will retry", [.plain "reason" reason]⟩
  | .fatal reason =>
    ⟨.error, mainTarget, "unexpected response from Trenord", [.plain "reason" reason]⟩

/-- The record of a fetch that ended. -/
def resultRecord (id : String) : FetchResult → LogRecord
  | .ok (.found t) =>
    ⟨.info, trackerTarget, "train updated",
      trainField t.id :: nameFields t ++ [.plain "delay" (Text.padded 1 t.delay)]⟩
  | .ok .notFound => ⟨.info, trackerTarget, "train not found for today", [trainField id]⟩
  | .error failure =>
    ⟨.warn, trackerTarget,
      if failure.isRetryable then "fetch failed, will retry" else "unexpected payload",
      [trainField id, errorField failure.message]⟩

variable {m : Type → Type} [Monad m]

/-- Fetches the payload of a train for a day. -/
def fetch (h : Host m) (source : Source) (id : String) (day : Date) : m FetchEnding :=
  match source with
  | .canned shelf => pure (shelf.ending id)
  | .live server => do
    h.emit ⟨.info, serverTarget, "calling Trenord API",
      [.quoted "train_id" id, .plain "date" day.text]⟩
    return .replied (Server.reply (← server.ask h.exchange id day))

/-- Sets up the source of payloads. -/
def openSource (h : Host m) (s : Settings) : m (Option Source) :=
  match s.mockDirectory with
  | none => pure (some (.live s.server))
  | some path => do
    match Directory.load (Text.Utf8.encode path.toList) (← h.list path) with
    | .ok shelf =>
      h.emit ⟨.info, mainTarget, "serving trains from mock data", [.plain "dir" path]⟩
      return some (.canned shelf)
    | .error e =>
      h.emit ⟨.error, mainTarget, "failed to create Trenord client",
        [errorField e.transport.message]⟩
      return none

/-- The tracker of a session. A train whose schedule is not known is looked up first. -/
def openTracker (h : Host m) (s : Settings) (source : Source) : m Tracker := do
  if s.schedule.isSome then return .new s.tracker
  else
    let day := Zone.Rome.date (← h.now)
    let ending ← fetch h source s.trainId day
    match lookupTrain (ending.result s.trainId TrackerConfig.standardBudget) with
    | .ok train =>
      h.emit ⟨.info, mainTarget, "found train", [trainField train.id, .plain "name" train.name]⟩
      h.emit (snapshotRecord (← h.now) train)
      return .withSnapshot s.tracker train
    | .error .notFound =>
      h.emit ⟨.warn, mainTarget, "train does not run today, tracking anyway",
        [trainField s.trainId]⟩
      return .new s.tracker
    | .error e =>
      h.emit ⟨.warn, mainTarget, "lookup failed, starting cold",
        [trainField s.trainId, errorField e.message]⟩
      return .new s.tracker

/-- Begins a session; none if it fails at once. -/
def begin? (h : Host m) (env : Environment) : m (Option (Source × Loop)) := do
  match Settings.read env with
  | .error e =>
    h.emit ⟨.error, mainTarget, "invalid configuration", [errorField e.message]⟩
    return none
  | .ok s =>
    match ← openSource h s with
    | none => return none
    | some source => return some (source, .start (← openTracker h s source))

/-- Carries out what a loop does to the world outside, and gives the loop its fetch back. -/
def perform (h : Host m) (source : Source) (l : Loop) : List LoopEffect → m Loop
  | [] => pure l
  | .publish update :: rest => do
    h.emit (updateRecord (← h.now) update)
    perform h source l rest
  | .request id day :: rest => do
    h.emit ⟨.info, trackerTarget, "refreshing train", [trainField id]⟩
    let ending ← fetch h source id day
    h.emit (resultRecord id (l.resultOf ending))
    let (l, effects) := l.finish ending
    for effect in effects do
      if let .publish update := effect then h.emit (updateRecord (← h.now) update)
    perform h source l rest

/-- One tick of the loop and all that follows from it. -/
def beat (h : Host m) (source : Source) (l : Loop) : m Loop := do
  let (l, effects) := l.tick (← h.now)
  perform h source l effects

/-- Ends a session. -/
def close (h : Host m) (l : Loop) : m Tracker := do
  h.emit ⟨.info, mainTarget, "shutting down", []⟩
  h.emit ⟨.info, trackerTarget, "coordinator stopped", [trainField l.tracker.config.trainId]⟩
  return l.stop

end Session
end RailWatch

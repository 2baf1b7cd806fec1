import RailWatch.Settings.Integer
import RailWatch.Settings.Timestamp
import RailWatch.Source.Live
import RailWatch.Text.Blank
import RailWatch.Tracker
/-!
# RailWatch.Settings

What the tracker is told by its environment.

A **setting** is a variable of the environment. Only the train has to be set; the others have
defaults. A setting that is there but makes no sense is an error and never replaced by its default.
The settings are looked at in a fixed order, and the first error counts.
-/

namespace RailWatch

open Text

/-- A variable that is looked at. -/
inductive Setting
  | trainId
  | departure
  | arrival
  | interval
  | before
  | after
  | baseUrl
  | timeout
  | mockDirectory
deriving DecidableEq

/-- The name of the variable. -/
def Setting.name : Setting → String
  | trainId => "TRENORD_TRAIN_ID"
  | departure => "TRENORD_DEPARTURE_TIME"
  | arrival => "TRENORD_ARRIVAL_TIME"
  | interval => "TRENORD_POLL_INTERVAL_SECS"
  | before => "TRENORD_POLL_BEFORE_DEPARTURE_MINS"
  | after => "TRENORD_POLL_AFTER_ARRIVAL_MINS"
  | baseUrl => "TRENORD_BASE_URL"
  | timeout => "TRENORD_TIMEOUT_SECS"
  | mockDirectory => "TRENORD_MOCK_DIR"

/-- Why the value of a setting makes no sense. -/
inductive SettingFlaw
  | timestamp (error : TimestampError)
  | integer (error : IntegerError)
  /-- A number outside its range. -/
  | outside (n low high : Int)
deriving DecidableEq

/-- The reason in words. -/
def SettingFlaw.message : SettingFlaw → String
  | timestamp error => error.message
  | integer error => error.message
  | outside n low high =>
    intText n ++ " is outside " ++ intText low ++ "..=" ++ intText high

/-- What is wrong with the settings. -/
inductive SettingsError
  /-- A setting that has to be there is not. -/
  | missing (setting : Setting)
  /-- A setting makes no sense. -/
  | invalid (setting : Setting) (flaw : SettingFlaw)
  /-- One of departure and arrival is set and the other is not. -/
  | partialSchedule
deriving DecidableEq

/-- The error in words. -/
def SettingsError.message : SettingsError → String
  | missing setting => setting.name ++ " is not set"
  | invalid setting flaw => "invalid " ++ setting.name ++ ": " ++ flaw.message
  | partialSchedule =>
    Setting.departure.name ++ " and " ++ Setting.arrival.name ++ " must be set together"

/-- The values of variables by name. -/
abbrev Environment := String → Option String

/-- The settings of a run. -/
structure Settings where
  trainId : String
  /-- Departure and arrival, if they are known beforehand. -/
  schedule : Option (Instant × Instant)
  /-- Seconds between ticks. -/
  interval : Nat
  window : PollWindow
  server : Server
  /-- A directory to take payloads from instead of the server. -/
  mockDirectory : Option String
deriving DecidableEq

namespace Settings

/-- The value of a setting. -/
def lookup (env : Environment) (s : Setting) : Option String :=
  env s.name

/-- The greatest number of seconds of a setting, one day. -/
def maxSeconds : Int := 86400

/-- The greatest number of minutes of a setting, one day. -/
def maxMinutes : Int := 1440

/-- The train to follow. Its id may be any text that is not blank. -/
def readTrainId (env : Environment) : Except SettingsError String :=
  match lookup env .trainId with
  | some id => if isAllBlank id.toList then .error (.missing .trainId) else .ok id
  | none => .error (.missing .trainId)

/-- An instant, if it is set. -/
def readInstant (env : Environment) (s : Setting) : Except SettingsError (Option Instant) :=
  match lookup env s with
  | none => .ok none
  | some text =>
    match Timestamp.read text.toList with
    | .ok i => .ok (some i)
    | .error e => .error (.invalid s (.timestamp e))

/-- Departure and arrival, which are set together or not at all. -/
def readSchedule (env : Environment) : Except SettingsError (Option (Instant × Instant)) := do
  let departure ← readInstant env .departure
  let arrival ← readInstant env .arrival
  match departure, arrival with
  | some departure, some arrival => return some (departure, arrival)
  | none, none => return none
  | _, _ => .error .partialSchedule

/-- A whole number in a range, or the default if it is not set. Blanks at its ends do not matter. -/
def readNumber (env : Environment) (s : Setting) (type : IntegerType) (default low high : Int) :
    Except SettingsError Int :=
  match lookup env s with
  | none => .ok default
  | some text =>
    match type.read (trim text.toList) with
    | .error e => .error (.invalid s (.integer e))
    | .ok n => if low ≤ n && n ≤ high then .ok n else .error (.invalid s (.outside n low high))

/-- The seconds between ticks. -/
def readInterval (env : Environment) : Except SettingsError Int :=
  readNumber env .interval .unsigned64 60 1 maxSeconds

/-- The minutes before the departure. -/
def readBefore (env : Environment) : Except SettingsError Int :=
  readNumber env .before .signed64 30 0 maxMinutes

/-- The minutes after the arrival. -/
def readAfter (env : Environment) : Except SettingsError Int :=
  readNumber env .after .signed64 10 0 maxMinutes

/-- The seconds that a request may take. -/
def readTimeout (env : Environment) : Except SettingsError Int :=
  readNumber env .timeout .unsigned64 Server.standard.timeout 1 maxSeconds

/-- The settings that an environment makes. -/
def read (env : Environment) : Except SettingsError Settings := do
  let trainId ← readTrainId env
  let schedule ← readSchedule env
  let interval ← readInterval env
  let before ← readBefore env
  let after ← readAfter env
  let timeout ← readTimeout env
  return {
    trainId
    schedule
    interval := interval.toNat
    window := .ofMinutes before after
    server := ⟨(lookup env .baseUrl).getD Server.standard.baseUrl, timeout.toNat⟩
    mockDirectory := lookup env .mockDirectory }

/-- How the train is followed under these settings. -/
def tracker (s : Settings) : TrackerConfig :=
  let config :=
    { TrackerConfig.ofId s.trainId with interval := .ofSeconds s.interval, window := s.window }
  match s.schedule with
  | some (departure, arrival) => config.withSchedule departure arrival
  | none => config

end Settings
end RailWatch

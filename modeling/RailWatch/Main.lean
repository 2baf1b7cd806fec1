import RailWatch.Log.Filter
import RailWatch.Session
import Std.Async.Signal
import Std.Time.DateTime.Timestamp
/-!
# RailWatch.Main

The command line: follows the train that the environment names until it is interrupted.

Records are written to standard output. This build has no connection to a network, so requests to a
live server go unanswered; payloads from a directory are served as usual.
-/

namespace RailWatch.Main

/-- The time on the clock of the machine. -/
def now : IO Instant := do
  let t ← Std.Time.Timestamp.now
  return ⟨t.val.second.val, t.val.nano.val.toNat⟩

/-- The reason for which a directory could not be listed. -/
def listingError : IO.Error → ListingError
  | .noFileOrDirectory .. => .missing
  | .inappropriateType .. => .notDirectory
  | e => .other (toString e)

/-- The items of a directory. -/
def list (path : String) : IO (Except ListingError Listing) := do
  try
    let entries ← (← IO.FS.realPath path).readDir
    let items ← entries.toList.mapM fun e => do
      let name := Text.Utf8.encode e.fileName.toList
      if ← e.path.isDir then return (name, .directory)
      else return (name, .file (← IO.FS.readBinFile e.path).toList)
    return .ok items
  catch e => return .error (listingError e)

/-- An instant in universal time, as records carry it. -/
def stamp (i : Instant) : String :=
  let r := Reading.ofSeconds i.seconds i.nanos
  r.date.text ++ "T" ++ r.clock.text ++ "." ++ Text.padded 6 (i.nanos / 1000) ++ "Z"

/-- Writes a record down if the filter has it so. -/
def emit (filter : LogFilter) (r : LogRecord) : IO Unit := do
  if filter.allows r then
    let indent := String.ofList (List.replicate (6 - r.level.label.length) ' ')
    IO.println (stamp (← now) ++ indent ++ r.line)

/-- The world of a session on this machine. -/
def host (filter : LogFilter) : Host IO where
  now := now
  list := list
  exchange url := pure (.error (.unanswered url))
  emit := emit filter

/-- The settings that are looked at. -/
def allSettings : List Setting :=
  [.trainId, .departure, .arrival, .interval, .before, .after, .baseUrl, .timeout, .mockDirectory]

/-- The environment of the process, as far as it is looked at. -/
def environment : IO Environment := do
  let values ← allSettings.mapM fun s => return (s.name, ← IO.getEnv s.name)
  return fun name => (values.lookup name).join

/-- The milliseconds between two looks at whether the process was interrupted. -/
def pause : Nat := 50

/-- Waits until a moment of the steady clock or an interrupt; whether it was the interrupt. -/
partial def waitUntil (moment : Nat) (isInterrupted : IO Bool) : IO Bool := do
  if ← isInterrupted then return true
  else
    let time ← IO.monoMsNow
    if moment ≤ time then return false
    else
      IO.sleep (min pause (moment - time)).toUInt32
      waitUntil moment isInterrupted

/-- Ticks at the moments of a steady clock until the process is interrupted. -/
partial def follow (h : Host IO) (source : Source) (isInterrupted : IO Bool) (moment : Nat)
    (l : Loop) : IO Loop := do
  let l ← Session.beat h source l
  let next := moment + l.tracker.config.interval.millis
  if ← waitUntil next isInterrupted then return l
  else follow h source isInterrupted next l

end RailWatch.Main

open RailWatch in
/-- Follows the train that the environment names. -/
def main : IO UInt32 := do
  let h := Main.host (LogFilter.ofSetting (← IO.getEnv "RUST_LOG"))
  match ← Session.begin? h (← Main.environment) with
  | none => return 1
  | some (source, l) =>
    let interrupt ← (← Std.Async.Signal.Waiter.mk .sigint false).wait
    let l ← Main.follow h source (IO.hasFinished interrupt) (← IO.monoMsNow) l
    discard (Session.close h l)
    return 0

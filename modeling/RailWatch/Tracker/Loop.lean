import RailWatch.Tracker
/-!
# RailWatch.Tracker.Loop

The loop that drives a tracker.

A **loop** owns the tracker and the fetch in flight. It reacts to two kinds of events, in whatever
order they come: a tick of its timer and the end of its fetch. What it does to the world outside is
a list of effects: a request that starts a fetch, or an update for the subscribers. The loop starts
with no fetch in flight, whatever phase its tracker is in.

`Loop.step` is one event, `Loop.run` a history of them, and `Loop.stop` gives the tracker back.
-/

namespace RailWatch

/-- A tracker and the fetch that it waits for. -/
structure Loop where
  tracker : Tracker
  /-- The day that is asked about by the fetch in flight. -/
  inFlight : Option Date
deriving DecidableEq

/-- What a loop reacts to. -/
inductive LoopEvent
  /-- The timer ticks at this instant. -/
  | tick (now : Instant)
  /-- The fetch in flight ends. -/
  | finish (ending : FetchEnding)

/-- What a loop does to the world outside. -/
inductive LoopEffect
  /-- A fetch starts. -/
  | request (trainId : String) (date : Date)
  /-- The subscribers are told. -/
  | publish (update : Update)
deriving DecidableEq

namespace Loop

/-- A loop about to start. -/
def start (t : Tracker) : Loop := ⟨t, none⟩

/-- What comes of a fetch for this loop that ends so. -/
def resultOf (l : Loop) (ending : FetchEnding) : FetchResult :=
  ending.result l.tracker.config.trainId l.tracker.config.budget

/-- The loop after a tick. -/
def tick (l : Loop) (now : Instant) : Loop × List LoopEffect :=
  let (tracker, action) := l.tracker.tick now
  match action with
  | .busy => ({ l with tracker }, [])
  | .publish update => ({ l with tracker }, [.publish update])
  | .fetch date => (⟨tracker, some date⟩, [.request tracker.config.trainId date])

/-- The loop after the end of its fetch. Without a fetch in flight nothing can end. -/
def finish (l : Loop) (ending : FetchEnding) : Loop × List LoopEffect :=
  match l.inFlight with
  | none => (l, [])
  | some _ =>
    let (tracker, update) := l.tracker.complete (l.resultOf ending)
    (⟨tracker, none⟩, [.publish update])

/-- The loop after an event. -/
def step (l : Loop) : LoopEvent → Loop × List LoopEffect
  | .tick now => l.tick now
  | .finish ending => l.finish ending

/-- The loop after a history of events, and all that it did. -/
def run (l : Loop) : List LoopEvent → Loop × List LoopEffect
  | [] => (l, [])
  | e :: es =>
    let (l, effects) := l.step e
    let (l, later) := l.run es
    (l, effects ++ later)

/-- The tracker of a loop that is shut down. A fetch in flight is given up. -/
def stop (l : Loop) : Tracker :=
  l.tracker.abandon

@[simp] theorem run_nil (l : Loop) : l.run [] = (l, []) := rfl

@[simp] theorem run_cons (l : Loop) (e : LoopEvent) (es : List LoopEvent) :
    l.run (e :: es) =
      (((l.step e).1.run es).1, (l.step e).2 ++ ((l.step e).1.run es).2) := rfl

/-- A history in two parts is the second part run after the first. -/
theorem run_append (l : Loop) (es fs : List LoopEvent) :
    l.run (es ++ fs) = (((l.run es).1.run fs).1, (l.run es).2 ++ ((l.run es).1.run fs).2) := by
  induction es generalizing l with
  | nil => rfl
  | cons e es ih => simp [ih]

end Loop
end RailWatch

import RailWatch.Tracker.Loop
/-!
# RailWatch.Tracker.Timeline

A loop on a clock, with a source whose answers are known beforehand.

Time is counted in milliseconds from the start of the loop and only timers take any. The timer of
the loop ticks at once and then once an interval. The source answers its fetches in turn, each
after a delay; a fetch that is not answered within its budget ends in silence, and so does every
fetch that the source has no answer for. The run is over when the clock passes a given time or a
given number of updates was published.

`Timeline.run` gives the **entries** of a run, each effect with its time, and the loop at the end.
-/

namespace RailWatch

/-- How a source answers a fetch, if it does. -/
structure Answer where
  /-- The time that the answer takes. -/
  delay : Duration
  ending : FetchEnding

/-- When, after its start, a fetch ends, and how. An answer that comes as the budget runs out still
counts. -/
def Answer.within (budget : Duration) (a : Answer) : Duration × FetchEnding :=
  match a.ending with
  | .silent => (budget, .silent)
  | ending => if a.delay.nanos ≤ budget.nanos then (a.delay, ending) else (budget, .silent)

/-- An effect and its time. -/
structure Entry where
  /-- Milliseconds since the start of the loop. -/
  time : Nat
  effect : LoopEffect

/-- The update of an entry that published one. -/
def Entry.update? (e : Entry) : Option Update :=
  match e.effect with
  | .publish update => some update
  | .request _ _ => none

/-- When a run is over. -/
structure StopRule where
  /-- The last millisecond of the run. -/
  time : Nat
  /-- The number of updates that ends the run before that. -/
  updates : Option Nat

/-- A loop on a clock. -/
structure Timeline where
  /-- The instant at which the loop started. -/
  start : Instant
  loop : Loop
  /-- The time of the next tick. -/
  nextTick : Nat
  /-- When and how the fetch in flight will end. -/
  ending : Option (Nat × FetchEnding)
  /-- The answers that the source has left. -/
  answers : List Answer

namespace Timeline

/-- The shortest time between ticks. -/
def minInterval : Duration := .ofMillis 1

/-- The milliseconds between the ticks of a loop. -/
def interval (t : Timeline) : Nat :=
  (t.loop.tracker.config.interval.max minInterval).millis

/-- A loop about to start at an instant. -/
def ofTracker (start : Instant) (answers : List Answer) (tracker : Tracker) : Timeline :=
  ⟨start, .start tracker, 0, none, answers⟩

/-- What a clock shows a number of milliseconds after the start of the loop. -/
def now (t : Timeline) (time : Nat) : Instant :=
  let nanos := t.start.nanos + time * 1000000
  ⟨t.start.seconds + nanos / nanosPerSecond, nanos % nanosPerSecond⟩

/-- The effects of a step with their time. -/
def entriesAt (time : Nat) (effects : List LoopEffect) : List Entry :=
  effects.map (⟨time, ·⟩)

/-- The end that a fetch started at this time will have, and the answers that are left then. -/
def plan (t : Timeline) (time : Nat) : Option (Nat × FetchEnding) × List Answer :=
  let budget := t.loop.tracker.config.budget
  let (d, ending) := (t.answers.head?.getD ⟨budget, .silent⟩).within budget
  (some (time + d.millis, ending), t.answers.tail)

/-- The next tick. -/
def tick (t : Timeline) : Timeline × List Entry :=
  let time := t.nextTick
  let (loop, effects) := t.loop.tick (t.now time)
  let (ending, answers) :=
    if effects.any fun e => e matches .request _ _ then t.plan time else (t.ending, t.answers)
  ({ t with loop, ending, answers, nextTick := time + t.interval }, entriesAt time effects)

/-- The end of the fetch in flight. -/
def finish (t : Timeline) (time : Nat) (ending : FetchEnding) : Timeline × List Entry :=
  let (loop, effects) := t.loop.finish ending
  ({ t with loop, ending := none }, entriesAt time effects)

/-- Whatever happens next: the fetch in flight ends or the timer ticks, if that is within the time
of the run. -/
def step? (t : Timeline) (limit : Nat) : Option (Timeline × List Entry) :=
  match t.ending with
  | some (time, ending) =>
    if time ≤ t.nextTick then
      if time ≤ limit then some (t.finish time ending) else none
    else if t.nextTick ≤ limit then some t.tick
    else none
  | none => if t.nextTick ≤ limit then some t.tick else none

/-- How many updates the entries published. -/
def countUpdates (entries : List Entry) : Nat :=
  (entries.filterMap Entry.update?).length

/-- The number of updates that is left after some were published. -/
def StopRule.after (rule : StopRule) (entries : List Entry) : StopRule :=
  { rule with updates := rule.updates.map (· - countUpdates entries) }

/-- At most so many steps of a run. -/
def runSteps : Nat → Timeline → StopRule → Timeline × List Entry
  | 0, t, _ => (t, [])
  | n + 1, t, rule =>
    if rule.updates = some 0 then (t, [])
    else
      match t.step? rule.time with
      | none => (t, [])
      | some (t, entries) =>
        let (t, later) := runSteps n t (StopRule.after rule entries)
        (t, entries ++ later)

/-- A run. Within its time there are at most as many ticks as milliseconds and one more, and before
each tick at most one fetch ends. -/
def run (t : Timeline) (rule : StopRule) : Timeline × List Entry :=
  runSteps (2 * (rule.time / t.interval) + 4) t rule

/-- A time by which a loop has published so many updates: after each of them the next tick is at
most an interval away, and a fetch that it starts ends within its budget. -/
def timeFor (t : Timeline) (updates : Nat) : Nat :=
  updates * (t.loop.tracker.config.budget.millis + 2 * t.interval)

end Timeline
end RailWatch

import RailWatch.Proofs.Tracker.Run
/-!
# RailWatch.Proofs.Loop.Ledger

The books of a loop: fetches started against fetches joined, ticks against updates.

A loop holds two pieces of state that have to stay **in step**: the fetch in flight and the phase of
its tracker. `InStep` is the invariant; `tick_cases` and `finish_cases` say all that one turn can
do, and each law of a run is a law of one turn and an induction over the turns. A law that speaks of
what a run leaves behind is stated with a **trace**, the list of what each turn shows.

A **service** is a loop that can be shut down. It takes signals until then and none after that. The
main result is `Service.flights_match_phase`: whatever comes in whatever order, a fetch is in flight
exactly while the tracker waits for one, and every tick that was not answered busy has led to one
update, or is still going to, or was given up.
-/

namespace RailWatch

/-- The update that an effect publishes. -/
def LoopEffect.update? : LoopEffect → Option Update
  | publish update => some update
  | request _ _ => none

/-- The day about which an effect starts a fetch. -/
def LoopEffect.day? : LoopEffect → Option Date
  | publish _ => none
  | request _ day => some day

/-- The updates that effects publish. -/
def published (effects : List LoopEffect) : List Update := effects.filterMap LoopEffect.update?

/-- The days about which effects start fetches. -/
def started (effects : List LoopEffect) : List Date := effects.filterMap LoopEffect.day?

@[simp] theorem published_nil : published [] = [] := rfl
@[simp] theorem published_publish (update : Update) (effects : List LoopEffect) :
    published (.publish update :: effects) = update :: published effects := rfl
@[simp] theorem published_request (id : String) (day : Date) (effects : List LoopEffect) :
    published (.request id day :: effects) = published effects := rfl

@[simp] theorem started_nil : started [] = [] := rfl
@[simp] theorem started_publish (update : Update) (effects : List LoopEffect) :
    started (.publish update :: effects) = started effects := rfl
@[simp] theorem started_request (id : String) (day : Date) (effects : List LoopEffect) :
    started (.request id day :: effects) = day :: started effects := rfl

theorem published_append (as bs : List LoopEffect) :
    published (as ++ bs) = published as ++ published bs :=
  List.filterMap_append

theorem started_append (as bs : List LoopEffect) : started (as ++ bs) = started as ++ started bs :=
  List.filterMap_append

namespace Loop

/-! ### One turn -/

/-- The answers that the tracker gives in a turn: one to a tick. -/
def answers (l : Loop) : LoopEvent → List TickAction
  | .tick now => [(l.tracker.tick now).2]
  | .finish _ => []

/-- The fetch that is joined in a turn: the day it asked about and how it ended. -/
def joined? (l : Loop) : LoopEvent → Option (Date × FetchEnding)
  | .tick _ => none
  | .finish ending => l.inFlight.map (·, ending)

/-- All that a tick can do to a loop. -/
theorem tick_cases (l : Loop) (now : Instant) :
    (l.tracker.phase = .fetching ∧ (l.tracker.tick now).2 = .busy ∧ l.tick now = (l, [])) ∨
      (l.tracker.phase = .idle ∧
        (l.tracker.tick now).2 = .publish (.unchanged l.tracker.snapshot) ∧
        l.tick now = (l, [.publish (.unchanged l.tracker.snapshot)])) ∨
      (l.tracker.phase = .idle ∧ (l.tracker.tick now).2 = .fetch (Zone.Rome.date now) ∧
        l.tick now = (⟨{ l.tracker with phase := .fetching }, some (Zone.Rome.date now)⟩,
          [.request l.tracker.config.trainId (Zone.Rome.date now)])) := by
  unfold tick
  rcases l.tracker.tick_cases now with ⟨hp, ht⟩ | ⟨hp, -, ht⟩ | ⟨hp, -, ht⟩ <;> rw [ht]
  · exact .inl ⟨hp, rfl, rfl⟩
  · exact .inr (.inl ⟨hp, rfl, rfl⟩)
  · exact .inr (.inr ⟨hp, rfl, rfl⟩)

/-- All that the end of a fetch can do to a loop. -/
theorem finish_cases (l : Loop) (ending : FetchEnding) :
    (l.inFlight = none ∧ l.finish ending = (l, [])) ∨
      (∃ day, l.inFlight = some day ∧
        l.finish ending = (⟨(l.tracker.complete (l.resultOf ending)).1, none⟩,
          [.publish (l.tracker.complete (l.resultOf ending)).2])) := by
  unfold finish
  cases l.inFlight with
  | none => exact .inl ⟨rfl, rfl⟩
  | some day => exact .inr ⟨day, rfl, rfl⟩

@[simp] theorem start_inFlight (t : Tracker) : (start t).inFlight = none := rfl
@[simp] theorem start_tracker (t : Tracker) : (start t).tracker = t := rfl

/-- A fetch is in flight exactly while the tracker waits for one. -/
def InStep (l : Loop) : Prop :=
  l.inFlight.isSome = true ↔ l.tracker.phase = .fetching

theorem inStep_start {t : Tracker} (h : t.phase = .idle) : (start t).InStep := by
  simp [InStep, h]

theorem InStep.inFlight_eq_none {l : Loop} (h : l.InStep) (hp : l.tracker.phase = .idle) :
    l.inFlight = none := by
  have hn : ¬l.inFlight.isSome = true := fun hs => by
    have hf := h.mp hs
    rw [hp] at hf
    cases hf
  simpa using hn

/-- A turn keeps flight and phase in step. -/
theorem InStep.step {l : Loop} (h : l.InStep) (e : LoopEvent) : (l.step e).1.InStep := by
  cases e with
  | tick now =>
      show (l.tick now).1.InStep
      rcases l.tick_cases now with ⟨-, -, hc⟩ | ⟨-, -, hc⟩ | ⟨-, -, hc⟩ <;> rw [hc]
      · exact h
      · exact h
      · simp [InStep]
  | finish ending =>
      show (l.finish ending).1.InStep
      rcases l.finish_cases ending with ⟨-, hc⟩ | ⟨day, -, hc⟩ <;> rw [hc]
      · exact h
      · simp [InStep]

theorem InStep.run {l : Loop} (h : l.InStep) (es : List LoopEvent) : (l.run es).1.InStep := by
  induction es generalizing l with
  | nil => exact h
  | cons e es ih => exact ih (h.step e)

/-- What flies before a turn and what it starts is what it joins and what flies after it. Without
`InStep` a second fetch could start over the first one, which would then never be joined. -/
theorem InStep.flights_step {l : Loop} (h : l.InStep) (e : LoopEvent) :
    l.inFlight.toList ++ started (l.step e).2 =
      (l.joined? e).toList.map Prod.fst ++ (l.step e).1.inFlight.toList := by
  cases e with
  | tick now =>
      show l.inFlight.toList ++ started (l.tick now).2 = [] ++ (l.tick now).1.inFlight.toList
      rcases l.tick_cases now with ⟨-, -, hc⟩ | ⟨-, -, hc⟩ | ⟨hp, -, hc⟩ <;> rw [hc]
      · simp
      · simp
      · -- an idle tracker starts a fetch, and none is in flight over which it could be lost
        simp [h.inFlight_eq_none hp]
  | finish ending =>
      show l.inFlight.toList ++ started (l.finish ending).2 =
        (l.inFlight.map (·, ending)).toList.map Prod.fst ++ (l.finish ending).1.inFlight.toList
      rcases l.finish_cases ending with ⟨hn, hc⟩ | ⟨day, hs, hc⟩ <;> rw [hc]
      · simp [hn]
      · simp [hs]

/-- A turn that answers a tick otherwise than busy publishes an update or starts a fetch, and one
that joins a fetch publishes an update. -/
theorem InStep.updates_step {l : Loop} (h : l.InStep) (e : LoopEvent) :
    ((l.answers e).filter (· ≠ .busy)).length + l.inFlight.toList.length =
      (published (l.step e).2).length + (l.step e).1.inFlight.toList.length := by
  cases e with
  | tick now =>
      show ([(l.tracker.tick now).2].filter (· ≠ .busy)).length + l.inFlight.toList.length =
        (published (l.tick now).2).length + (l.tick now).1.inFlight.toList.length
      rcases l.tick_cases now with ⟨-, ha, hc⟩ | ⟨-, ha, hc⟩ | ⟨hp, ha, hc⟩ <;> rw [ha, hc]
      · simp
      · simp
      · simp [h.inFlight_eq_none hp]
  | finish ending =>
      show 0 + l.inFlight.toList.length =
        (published (l.finish ending).2).length + (l.finish ending).1.inFlight.toList.length
      rcases l.finish_cases ending with ⟨hn, hc⟩ | ⟨day, hs, hc⟩ <;> rw [hc]
      · simp
      · simp [hs]

/-! ### Whole runs -/

/-- What the turns of a history show, one after the other. -/
def trace {α : Type} (view : Loop → LoopEvent → List α) (l : Loop) : List LoopEvent → List α
  | [] => []
  | e :: es => view l e ++ trace view (l.step e).1 es

/-- The fetches that are joined in a history. -/
def joins (l : Loop) (es : List LoopEvent) : List (Date × FetchEnding) :=
  l.trace (fun l e => (l.joined? e).toList) es

/-- The ticks of a history that are not answered busy, by their answers. -/
def heeded (l : Loop) (es : List LoopEvent) : List TickAction :=
  (l.trace answers es).filter (· ≠ .busy)

/-- The fetches started by a history are, in order, those that it joins and the one in flight at its
end. So each of them is joined at most once, and no two are in flight together. -/
theorem InStep.flights_run {l : Loop} (h : l.InStep) (es : List LoopEvent) :
    l.inFlight.toList ++ started (l.run es).2 =
      (l.joins es).map Prod.fst ++ (l.run es).1.inFlight.toList := by
  induction es generalizing l with
  | nil => simp [joins, trace]
  | cons e es ih =>
      have hstep := h.flights_step e
      have hrest := ih (h.step e)
      simp only [joins] at hrest
      simp only [run_cons, joins, trace, started_append, List.map_append]
      rw [← List.append_assoc, hstep, List.append_assoc, hrest, List.append_assoc]

/-- Each tick of a history that is not answered busy leads to an update, if not yet then by the
fetch in flight. -/
theorem InStep.updates_run {l : Loop} (h : l.InStep) (es : List LoopEvent) :
    (l.heeded es).length + l.inFlight.toList.length =
      (published (l.run es).2).length + (l.run es).1.inFlight.toList.length := by
  induction es generalizing l with
  | nil => simp [heeded, trace]
  | cons e es ih =>
      have hstep := h.updates_step e
      have hrest := ih (h.step e)
      simp only [heeded] at hrest
      simp only [run_cons, heeded, trace, published_append, List.filter_append, List.length_append]
      omega

end Loop

/-! ### Shutdown -/

/-- What reaches a loop in service. -/
inductive Signal
  /-- A tick, or the end of the fetch in flight. -/
  | event (e : LoopEvent)
  /-- The loop is to stop. -/
  | shutdown

/-- A loop that can be shut down. -/
inductive Service
  /-- The loop is about to take the next signal. -/
  | running (l : Loop)
  /-- The loop was shut down: the tracker it gave back, and the fetch it gave up. -/
  | stopped (t : Tracker) (abandoned : Option Date)

/-- The events that a loop takes: those before it is shut down. -/
def Signal.taken : List Signal → List LoopEvent
  | .event e :: rest => e :: taken rest
  | _ => []

namespace Service

/-- One signal. A loop that was shut down takes no more of them. -/
def step : Service → Signal → Service
  | running l, .event e => running (l.step e).1
  | running l, .shutdown => stopped l.stop l.inFlight
  | stopped t abandoned, _ => stopped t abandoned

/-- A service after signals. -/
def run (s : Service) (signals : List Signal) : Service := signals.foldl step s

/-- The fetch that was started and not joined, if there is one: it is in flight or was given up. -/
def outstanding : Service → List Date
  | running l => l.inFlight.toList
  | stopped _ abandoned => abandoned.toList

theorem run_stopped (t : Tracker) (abandoned : Option Date) (signals : List Signal) :
    (stopped t abandoned).run signals = stopped t abandoned := by
  induction signals with
  | nil => rfl
  | cons _ _ ih => exact ih

/-- A service is where its loop is after the events that it took, or stopped from there. -/
theorem run_running (l : Loop) (signals : List Signal) :
    (running l).run signals = running (l.run (Signal.taken signals)).1 ∨
      (running l).run signals =
        stopped (l.run (Signal.taken signals)).1.stop (l.run (Signal.taken signals)).1.inFlight := by
  induction signals generalizing l with
  | nil => exact .inl rfl
  | cons signal rest ih =>
      cases signal with
      | event e => exact ih (l.step e).1
      | shutdown => exact .inr (run_stopped l.stop l.inFlight rest)

/-- **Flights and phase.** Of a loop that starts with an idle tracker, whatever signals reach it:
before every turn a fetch is in flight exactly if the tracker waits for one, and there is none after
a shutdown; all fetches started but the outstanding one were joined; and the ticks that were not
answered busy are as many as the updates published, with one more while a fetch is outstanding. -/
theorem flights_match_phase (t : Tracker) (h : t.phase = .idle) (signals : List Signal) :
    let s := (running (.start t)).run signals
    let es := Signal.taken signals
    let effects := ((Loop.start t).run es).2
    (∀ l, s = running l → (l.inFlight.isSome = true ↔ l.tracker.phase = .fetching)) ∧
      (∀ t' abandoned, s = stopped t' abandoned → t'.phase = .idle) ∧
      (started effects).length = ((Loop.start t).joins es).length + s.outstanding.length ∧
      ((Loop.start t).heeded es).length = (published effects).length + s.outstanding.length := by
  intro s es effects
  have hin := Loop.inStep_start h
  have hflights : (started effects).length =
      ((Loop.start t).joins es).length + ((Loop.start t).run es).1.inFlight.toList.length := by
    simpa using congrArg List.length (hin.flights_run es)
  have hupdates : ((Loop.start t).heeded es).length =
      (published effects).length + ((Loop.start t).run es).1.inFlight.toList.length := by
    simpa using hin.updates_run es
  -- a shutdown hands on what was in flight, so both kinds of end are the same here
  have hout : s.outstanding = ((Loop.start t).run es).1.inFlight.toList := by
    rcases run_running (.start t) signals with hs | hs <;> simp only [s, hs] <;> rfl
  rw [hout]
  refine ⟨?_, ?_, hflights, hupdates⟩
  · intro l hl
    rcases run_running (.start t) signals with hs | hs
    · obtain rfl : ((Loop.start t).run es).1 = l := by simpa [s, hs] using hl
      exact hin.run es
    · simp [s, hs] at hl
  · intro t' abandoned ht
    rcases run_running (.start t) signals with hs | hs
    · simp [s, hs] at ht
    · obtain ⟨rfl, -⟩ : ((Loop.start t).run es).1.stop = t' ∧ _ := by simpa [s, hs] using ht
      rfl

/-- A fetch that dies, and a second one that is given up, with a tick answered busy in between. -/
theorem flights_match_phase_cut_off :
    let t := Tracker.new (.ofId "10512")
    let signals : List Signal :=
      [.event (.tick (.ofSeconds 60)), .event (.tick (.ofSeconds 0)),
        .event (.finish (.died "task 7 panicked")), .event (.tick (.ofSeconds 90)), .shutdown,
        .event (.finish .silent)]
    let effects := ((Loop.start t).run (Signal.taken signals)).2
    t.phase = .idle ∧ (started effects).length = 1 + 1 ∧
      ((Loop.start t).heeded (Signal.taken signals)).length = (published effects).length + 1 := by
  intro t signals effects
  obtain ⟨-, -, hflights, hupdates⟩ := flights_match_phase t rfl signals
  exact ⟨rfl, hflights, hupdates⟩

end Service
end RailWatch

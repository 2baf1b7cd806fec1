import Mathlib.Data.List.Induction
import RailWatch.Proofs.Journey.Schedule
import RailWatch.Proofs.Loop.Ledger
import RailWatch.Proofs.Tracker.Cycle
/-!
# RailWatch.Proofs.Loop.Shutdown

A shutdown cuts a run off without a trace of the fetch that it gives up.

A loop whose tracker started out idle is **grounded**, with an idle tracker and no fetch in flight,
or it waits for a fetch that an earlier tick started, and everything since then were ticks answered
busy: `Loop.run_cases`. So a history splits into a part that leaves the loop grounded and the events
that are **pending** since, and a shutdown gives back the tracker of the first part.

The main result is `Service.shutdown_truncates`. A request to stop and the loss of the handle of a
loop are the same signal here. A fetch that has ended but was not joined is in flight like any
other: its end is an event that comes after the shutdown and is not taken any more.
-/

namespace RailWatch

namespace Loop

theorem run_concat (l : Loop) (es : List LoopEvent) (e : LoopEvent) :
    l.run (es ++ [e]) =
      (((l.run es).1.step e).1, (l.run es).2 ++ ((l.run es).1.step e).2) := by
  simp [run_append]

/-! ### What a joined fetch leaves behind -/

/-- The tracker as the last fetch joined in a history has left it, or `t` if none was joined. -/
def lastLeft (t : Tracker) (l : Loop) : List LoopEvent → Tracker
  | [] => t
  | e :: es =>
    lastLeft (if (l.joined? e).isSome then (l.step e).1.tracker else t) (l.step e).1 es

/-- But for the phase only a joined fetch changes the tracker. -/
theorem stop_step (l : Loop) (e : LoopEvent) :
    (l.step e).1.stop = if (l.joined? e).isSome then (l.step e).1.tracker else l.stop := by
  cases e with
  | tick now =>
      show (l.tick now).1.stop = l.stop
      rcases l.tick_cases now with ⟨-, -, hc⟩ | ⟨-, -, hc⟩ | ⟨-, -, hc⟩ <;>
        exact congrArg (·.1.stop) hc
  | finish ending =>
      show (l.finish ending).1.stop =
        if (l.inFlight.map (·, ending)).isSome then (l.finish ending).1.tracker else l.stop
      rcases l.finish_cases ending with ⟨hn, hc⟩ | ⟨day, hs, hc⟩ <;> rw [hc]
      · simp [hn]
      · rw [hs]
        exact Tracker.abandon_of_idle (Tracker.complete_phase _ _)

/-- A loop that is stopped gives back what the last joined fetch has left. -/
theorem stop_run (l : Loop) (es : List LoopEvent) : (l.run es).1.stop = lastLeft l.stop l es := by
  induction es generalizing l with
  | nil => rfl
  | cons e es ih =>
      have hrest := ih (l.step e).1
      rw [stop_step l e] at hrest
      exact hrest

/-! ### Where a run stands -/

/-- The events of a history since a tracker was last idle: none, or the tick that started the fetch
in flight and ticks answered busy. -/
def Pending (t : Tracker) : Option Date → List LoopEvent → Prop
  | none, cut => cut = []
  | some day, cut => ∃ (now : Instant) (ticks : List Instant),
      cut = .tick now :: ticks.map .tick ∧ (t.tick now).2 = .fetch day

/-- The loop of a tracker that waits for a fetch. -/
def waiting (t : Tracker) (day : Date) : Loop := ⟨{ t with phase := .fetching }, some day⟩

theorem waiting_stop {t : Tracker} (h : t.phase = .idle) (day : Date) :
    (waiting t day).stop = t :=
  Tracker.abandon_of_idle h

/-- The request that starts a fetch of a tracker. -/
def requestOf (t : Tracker) (day : Date) : LoopEffect := .request t.config.trainId day

/-- One turn of a grounded loop leaves it grounded or starts a fetch. -/
theorem step_start_cases {t : Tracker} (h : t.phase = .idle) (e : LoopEvent) :
    ((start t).step e).1 = start t ∨
      ∃ now day, e = .tick now ∧ (t.tick now).2 = .fetch day ∧
        (start t).step e = (waiting t day, [requestOf t day]) := by
  cases e with
  | tick now =>
      rcases (start t).tick_cases now with ⟨hp, -⟩ | ⟨-, -, hc⟩ | ⟨-, ha, hc⟩
      · rw [start_tracker, h] at hp
        cases hp
      · exact .inl (congrArg Prod.fst hc)
      · exact .inr ⟨now, _, rfl, ha, hc⟩
  | finish ending => exact .inl rfl

/-- One turn of a waiting loop is a busy tick, or joins the fetch and grounds the loop. -/
theorem step_waiting_cases (t : Tracker) (day : Date) (e : LoopEvent) :
    (∃ now, e = .tick now ∧ (waiting t day).step e = (waiting t day, [])) ∨
      ∃ back : Tracker, back.phase = .idle ∧ ((waiting t day).step e).1 = start back := by
  cases e with
  | tick now =>
      rcases (waiting t day).tick_cases now with ⟨-, -, hc⟩ | ⟨hp, -⟩ | ⟨hp, -⟩
      · exact .inl ⟨now, rfl, hc⟩
      · cases hp
      · cases hp
  | finish ending => exact .inr ⟨_, Tracker.complete_phase _ _, rfl⟩

/-- A run from a grounded loop leaves it grounded, or waiting for a fetch since a tick that found it
grounded, with busy ticks only from then on. -/
theorem run_cases {t : Tracker} (h : t.phase = .idle) (es : List LoopEvent) :
    (∃ back : Tracker, back.phase = .idle ∧ ((start t).run es).1 = start back) ∨
      ∃ (back : Tracker) (kept : List LoopEvent) (now : Instant) (ticks : List Instant)
        (day : Date),
        back.phase = .idle ∧ es = kept ++ .tick now :: ticks.map .tick ∧
          ((start t).run kept).1 = start back ∧ (back.tick now).2 = .fetch day ∧
          (start t).run es =
            (waiting back day, ((start t).run kept).2 ++ [requestOf back day]) := by
  induction es using List.reverseRecOn with
  | nil => exact .inl ⟨t, h, rfl⟩
  | append_singleton es e ih =>
      rw [run_concat]
      rcases ih with ⟨back, hi, hrun⟩ | ⟨back, kept, now, ticks, day, hi, rfl, hkept, hf, hrun⟩
      · rw [hrun]
        rcases step_start_cases hi e with hc | ⟨now, day, rfl, hf, hc⟩
        · exact .inl ⟨back, hi, hc⟩
        · exact .inr ⟨back, es, now, [], day, hi, rfl, hrun, hf, by rw [hc]⟩
      · rw [hrun]
        rcases step_waiting_cases back day e with ⟨later, rfl, hc⟩ | ⟨next, hnext, hc⟩
        · exact .inr ⟨back, kept, now, ticks ++ [later], day, hi, by simp, hkept, hf, by simp [hc]⟩
        · exact .inl ⟨next, hnext, hc⟩

/-- A history splits into a part that leaves the loop grounded, with the tracker that a stop would
give back, and what is pending since. All that this adds is the request of the fetch in flight. -/
theorem exists_pending {t : Tracker} (h : t.phase = .idle) (es : List LoopEvent) :
    let l := ((start t).run es).1
    ∃ kept cut, es = kept ++ cut ∧ ((start t).run kept).1 = start l.stop ∧
      Pending l.stop l.inFlight cut ∧
      ((start t).run es).2 =
        ((start t).run kept).2 ++ (l.inFlight.map (requestOf l.stop)).toList := by
  intro l
  rcases run_cases h es with
    ⟨back, hi, hrun⟩ | ⟨back, kept, now, ticks, day, hi, hes, hkept, hf, hrun⟩
  · -- grounded at the end, so all of the history is kept
    have hstop : l.stop = back := by
      simp only [l, hrun]
      exact Tracker.abandon_of_idle hi
    have hflight : l.inFlight = none := by
      simp only [l, hrun]
      rfl
    rw [hstop, hflight]
    exact ⟨es, [], (List.append_nil es).symm, hrun, rfl, by simp⟩
  · have hstop : l.stop = back := by
      simp only [l, hrun]
      exact waiting_stop hi day
    have hflight : l.inFlight = some day := by
      simp only [l, hrun]
      rfl
    rw [hstop, hflight]
    exact ⟨kept, _, hes, hkept, ⟨now, ticks, rfl, hf⟩, by simp [hrun]⟩

end Loop

/-! ### Shutdown -/

namespace Service

/-- What a service does to the world outside at a signal. -/
def emit : Service → Signal → List LoopEffect
  | running l, .event e => (l.step e).2
  | _, _ => []

/-- What a service does to the world outside at signals. -/
def effects (s : Service) : List Signal → List LoopEffect
  | [] => []
  | signal :: rest => s.emit signal ++ (s.step signal).effects rest

/-- After a shutdown nothing is done any more. -/
theorem effects_stopped (t : Tracker) (abandoned : Option Date) (signals : List Signal) :
    (stopped t abandoned).effects signals = [] := by
  induction signals with
  | nil => rfl
  | cons signal rest ih => cases signal <;> exact ih

/-- Until a shutdown a service is its loop. -/
theorem run_events (l : Loop) (es : List LoopEvent) (rest : List Signal) :
    (running l).run (es.map .event ++ rest) = (running (l.run es).1).run rest := by
  induction es generalizing l with
  | nil => rfl
  | cons e es ih => exact ih (l.step e).1

theorem effects_events (l : Loop) (es : List LoopEvent) (rest : List Signal) :
    (running l).effects (es.map .event ++ rest) =
      (l.run es).2 ++ (running (l.run es).1).effects rest := by
  induction es generalizing l with
  | nil => rfl
  | cons e es ih =>
      show (l.step e).2 ++ (running (l.step e).1).effects (es.map .event ++ rest) = _
      rw [ih, Loop.run_cons, List.append_assoc]

/-- **A shutdown truncates the run.** Whatever a loop with an idle tracker has taken before the
shutdown, and whatever is still to come then: the tracker that it gives back is idle and is what the
last joined fetch has left, or the first tracker. Nothing is done after the shutdown. The events
before it split into those that the run keeps and those that are pending. A loop that takes the kept
ones only never starts the fetch that is given up; it publishes the same updates and has the tracker
that is given back. So from there on both trackers answer any calls alike, and a new loop of the one
does what the other loop goes on to do. -/
theorem shutdown_truncates (t : Tracker) (h : t.phase = .idle) (before : List LoopEvent)
    (after : List Signal) :
    let l := ((Loop.start t).run before).1
    let signals := before.map .event ++ .shutdown :: after
    ∃ back, (running (.start t)).run signals = stopped back l.inFlight ∧
      back.phase = .idle ∧ back = Loop.lastLeft t (.start t) before ∧
      (running (.start t)).effects signals = ((Loop.start t).run before).2 ∧
      ∃ kept cut, before = kept ++ cut ∧ Loop.Pending back l.inFlight cut ∧
        published ((running (.start t)).effects signals) = published ((Loop.start t).run kept).2 ∧
        ((Loop.start t).run kept).1 = .start back ∧
        (∀ calls, back.transcript calls =
          ((Loop.start t).run kept).1.tracker.transcript calls) ∧
        ∀ later, (running (.start back)).effects later =
            (running ((Loop.start t).run kept).1).effects later ∧
          (running (.start back)).run later = (running ((Loop.start t).run kept).1).run later := by
  intro l signals
  have heffects : (running (.start t)).effects signals = ((Loop.start t).run before).2 := by
    rw [effects_events]
    show _ ++ (stopped l.stop l.inFlight).effects after = _
    rw [effects_stopped, List.append_nil]
  have hleft : l.stop = Loop.lastLeft t (.start t) before := by
    rw [Loop.stop_run]
    exact congrArg (Loop.lastLeft · (.start t) before) (Tracker.abandon_of_idle h)
  obtain ⟨kept, cut, hsplit, hkept, hpending, hall⟩ := Loop.exists_pending h before
  have hpublished : published ((Loop.start t).run before).2 =
      published ((Loop.start t).run kept).2 := by
    rw [hall, published_append]
    cases ((Loop.start t).run before).1.inFlight <;> simp [Loop.requestOf]
  have hrun : (running (.start t)).run signals = stopped l.stop l.inFlight := by
    rw [run_events]
    exact run_stopped l.stop l.inFlight after
  refine ⟨l.stop, hrun, rfl, hleft, heffects, kept, cut, hsplit, hpending, ?_, hkept, ?_, ?_⟩
  · rw [heffects, hpublished]
  · intro calls
    rw [hkept]
    rfl
  · intro later
    rw [hkept]
    exact ⟨rfl, rfl⟩

/-- A shutdown between the busy tick after a second fetch has started and the end of that fetch. -/
theorem shutdown_truncates_midFlight :
    let t := Tracker.withSnapshot (.ofId "10512") Journey.nightTrain
    let before : List LoopEvent :=
      [.tick (.ofSeconds 1710543000), .finish (.died "task 7 panicked"),
        .tick (.ofSeconds 1710543060), .tick (.ofSeconds 1710543120)]
    let signals := before.map .event ++ [.shutdown, .event (.finish .silent)]
    t.phase = .idle ∧
      ∃ back, (running (.start t)).run signals = stopped back (some ⟨19797⟩) ∧
        back.snapshot = some Journey.nightTrain ∧
        ∃ kept cut, before = kept ++ cut ∧ Loop.Pending back (some ⟨19797⟩) cut ∧
          ∀ calls, back.transcript calls =
            ((Loop.start t).run kept).1.tracker.transcript calls := by
  intro t before signals
  obtain ⟨back, hrun, -, hleft, -, kept, cut, hsplit, hpending, -, -, hcalls, -⟩ :=
    shutdown_truncates t rfl before [.event (.finish .silent)]
  have hflight : ((Loop.start t).run before).1.inFlight = some ⟨19797⟩ := by decide
  have hsnapshot : (Loop.lastLeft t (.start t) before).snapshot = some Journey.nightTrain := by
    decide
  rw [hflight] at hrun hpending
  exact ⟨rfl, back, hrun, hleft ▸ hsnapshot, kept, cut, hsplit, hpending, hcalls⟩

end Service
end RailWatch

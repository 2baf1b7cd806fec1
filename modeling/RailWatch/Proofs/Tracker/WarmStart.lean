import RailWatch.Proofs.Journey.Schedule
import RailWatch.Proofs.Polling.Stages
import RailWatch.Proofs.Tracker.Cycle
/-!
# RailWatch.Proofs.Tracker.WarmStart

What a tracker is told beforehand, and what comes of it.

Two trackers **match** if they are in the same phase, hold the same snapshot, poll by the same
window, and go by the same schedule as soon as they hold a train. As long as they hold none their
schedules may differ in any way, because every tick fetches then, on whatever day
(`Tracker.wantsFetch_of_no_snapshot`). Matching trackers answer every call alike and match after it,
`Tracker.Matches.call`, and so they do over any run.

A known schedule therefore makes no difference, `Tracker.known_schedule_makes_no_difference`, and to
set up a tracker with a train comes to the same as to let it fetch that train first,
`Tracker.seeded_as_if_fetched`.
-/

namespace RailWatch

namespace Tracker

variable {t t' : Tracker}

/-! ### One call -/

/-- A tracker without a snapshot wants to fetch, whatever schedule it knows. -/
theorem wantsFetch_of_no_snapshot (h : t.snapshot = none) (now : Instant) :
    t.wantsFetch now = true := by
  unfold wantsFetch
  rw [h]
  cases t.schedule with
  | none => rfl
  | some times => exact PollWindow.shouldPoll_of_no_snapshot _ now _ _

/-- An idle tracker that does not want to fetch tells again what it holds. -/
theorem tick_of_not_wantsFetch (hi : t.phase = .idle) {now : Instant}
    (hw : t.wantsFetch now = false) : t.tick now = (t, .publish (.unchanged t.snapshot)) := by
  simp [tick, hi, hw]

/-- Nothing that the trackers are called with will tell one from the other. -/
structure Matches (t t' : Tracker) : Prop where
  phase : t.phase = t'.phase
  snapshot : t.snapshot = t'.snapshot
  window : t.config.window = t'.config.window
  /-- The schedules need not be the same before a train is held. -/
  schedule : t.snapshot.isSome = true → t.schedule = t'.schedule

/-- Matching trackers want to fetch at the same instants. -/
theorem Matches.wantsFetch_eq (h : t.Matches t') (now : Instant) :
    t.wantsFetch now = t'.wantsFetch now := by
  cases hs : t.snapshot with
  | none =>
      -- the schedules may differ, and neither of them keeps the tracker from fetching
      have hs' : t'.snapshot = none := h.snapshot ▸ hs
      rw [wantsFetch_of_no_snapshot hs, wantsFetch_of_no_snapshot hs']
  | some train =>
      have hschedule := h.schedule (by simp [hs])
      simp only [wantsFetch, hschedule, h.window, h.snapshot]

/-- Trackers that match do so as well after both start a fetch. -/
theorem Matches.fetching (h : t.Matches t') :
    Matches { t with phase := .fetching } { t' with phase := .fetching } :=
  ⟨rfl, h.snapshot, h.window, h.schedule⟩

/-- Trackers that match do so as well after both give up what they wait for. -/
theorem Matches.abandon (h : t.Matches t') : t.abandon.Matches t'.abandon :=
  ⟨rfl, h.snapshot, h.window, h.schedule⟩

/-- Two trackers that accept the same train have its schedule in common from then on. -/
theorem Matches.accept (h : t.Matches t') (train : Train) :
    (t.accept train).Matches (t'.accept train) :=
  ⟨h.phase, rfl, h.window, fun _ => rfl⟩

theorem Matches.tick (h : t.Matches t') (now : Instant) :
    (t.tick now).2 = (t'.tick now).2 ∧ (t.tick now).1.Matches (t'.tick now).1 := by
  have hphase := h.phase
  have hwants := h.wantsFetch_eq now
  rcases t.tick_cases now with ⟨hp, hc⟩ | ⟨hp, hw, hc⟩ | ⟨hp, hw, hc⟩ <;>
    rw [hp] at hphase <;> rw [hc]
  · rw [tick_of_fetching hphase.symm]
    exact ⟨rfl, h⟩
  · rw [tick_of_not_wantsFetch hphase.symm (hwants ▸ hw), h.snapshot]
    exact ⟨rfl, h⟩
  · rw [tick_of_wantsFetch hphase.symm (hwants ▸ hw)]
    exact ⟨rfl, h.fetching⟩

theorem Matches.complete (h : t.Matches t') (result : FetchResult) :
    (t.complete result).2 = (t'.complete result).2 ∧
      (t.complete result).1.Matches (t'.complete result).1 := by
  rcases t.complete_cases result with ⟨train, rfl, hc⟩ | ⟨rfl, hc⟩ | ⟨failure, rfl, hc⟩ <;> rw [hc]
  · exact ⟨rfl, h.abandon.accept train⟩
  · exact ⟨congrArg Update.unchanged h.snapshot, h.abandon⟩
  · exact ⟨rfl, h.abandon⟩

/-- Matching trackers answer a call alike, and match after it. -/
theorem Matches.call (h : t.Matches t') (c : TrackerCall) :
    (t.call c).2 = (t'.call c).2 ∧ (t.call c).1.Matches (t'.call c).1 := by
  cases c with
  | tick now => exact ⟨congrArg TrackerAnswer.action (h.tick now).1, (h.tick now).2⟩
  | complete result =>
      exact ⟨congrArg TrackerAnswer.update (h.complete result).1, (h.complete result).2⟩

/-- A tracker that holds a train goes on holding one, and after a call that brings a train it holds
that one. -/
theorem isSome_snapshot_call (t : Tracker) (c : TrackerCall)
    (h : t.snapshot.isSome = true ∨ ∃ train, c = .complete (.ok (.found train))) :
    (t.call c).1.snapshot.isSome = true := by
  cases c with
  | tick now =>
      obtain hs | ⟨train, hc⟩ := h
      · simpa [Tracker.call] using hs
      · cases hc
  | complete result =>
      show (t.complete result).1.snapshot.isSome = true
      rcases t.complete_cases result with
        ⟨train, -, hc⟩ | ⟨rfl, hc⟩ | ⟨failure, rfl, hc⟩ <;> rw [hc]
      · rfl
      · simpa [Tracker.abandon] using h
      · simpa [Tracker.abandon] using h

/-! ### Whole runs -/

/-- **Matching trackers cannot be told apart.** They answer any calls alike, and match after
them. -/
theorem Matches.run (h : t.Matches t') (calls : List TrackerCall) :
    t.transcript calls = t'.transcript calls ∧ (t.after calls).Matches (t'.after calls) := by
  induction calls generalizing t t' with
  | nil => exact ⟨rfl, h⟩
  | cons c calls ih =>
      obtain ⟨hanswer, hnext⟩ := h.call c
      obtain ⟨hrest, hend⟩ := ih hnext
      exact ⟨by simp [hanswer, hrest], hend⟩

/-- Once a tracker holds a train it holds one to the end of the run. -/
theorem isSome_snapshot_after (t : Tracker) (calls : List TrackerCall)
    (h : t.snapshot.isSome = true ∨ ∃ train, .complete (.ok (.found train)) ∈ calls) :
    (t.after calls).snapshot.isSome = true := by
  induction calls generalizing t with
  | nil => simpa using h
  | cons c calls ih =>
      refine ih (t.call c).1 ?_
      obtain hs | ⟨train, hmem⟩ := h
      · exact .inl (t.isSome_snapshot_call c (.inl hs))
      · rcases List.mem_cons.mp hmem with hc | hlater
        · exact .inl (t.isSome_snapshot_call c (.inr ⟨train, hc.symm⟩))
        · exact .inr ⟨train, hlater⟩

/-- **A schedule known beforehand makes no difference.** Of two trackers that are set up alike but
for the departure and the arrival, each of which may be known or not, every call gets the same
answer, and after every run they are in the same phase with the same snapshot. Once a train was
found they have the same schedule too. -/
theorem known_schedule_makes_no_difference (config : TrackerConfig)
    (departure arrival departure' arrival' : Option Instant) (calls : List TrackerCall) :
    let t := new { config with departure, arrival }
    let t' := new { config with departure := departure', arrival := arrival' }
    t.transcript calls = t'.transcript calls ∧
      (t.after calls).phase = (t'.after calls).phase ∧
      (t.after calls).snapshot = (t'.after calls).snapshot ∧
      ((∃ train, .complete (.ok (.found train)) ∈ calls) →
        (t.after calls).schedule = (t'.after calls).schedule) := by
  intro t t'
  -- nothing is asked of the two schedules, as neither tracker holds a train
  have hstart : t.Matches t' := ⟨rfl, rfl, rfl, fun hs => by cases hs⟩
  obtain ⟨hsame, hend⟩ := hstart.run calls
  refine ⟨hsame, hend.phase, hend.snapshot, fun hfound => ?_⟩
  exact hend.schedule (t.isSome_snapshot_after calls (.inr hfound))

/-- A tracker that knows a schedule of the next day, and one that knows an arrival only, through a
first fetch that fails, one that finds the night train, and a tick that is skipped. -/
theorem known_schedule_makes_no_difference_nightTrain :
    let calls : List TrackerCall :=
      [.tick (.ofSeconds 1710540600), .complete (.error (.task "task 7 panicked")),
        .tick (.ofSeconds 1710540600), .complete (.ok (.found Journey.nightTrain)),
        .tick (.ofSeconds 1710540600)]
    let next := Instant.ofSeconds 1710628800
    let t := new ((TrackerConfig.ofId "10512").withSchedule next next)
    let t' := new { TrackerConfig.ofId "10512" with arrival := some (.ofSeconds 0) }
    (∃ train, .complete (.ok (.found train)) ∈ calls) ∧
      t.transcript calls = t'.transcript calls ∧
      (t.after calls).schedule = (t'.after calls).schedule := by
  intro calls next t t'
  have hfound : ∃ train, .complete (.ok (.found train)) ∈ calls :=
    ⟨Journey.nightTrain, by simp [calls]⟩
  obtain ⟨hsame, -, -, hschedule⟩ :=
    known_schedule_makes_no_difference (.ofId "10512") (some next) (some next) none
      (some (.ofSeconds 0)) calls
  exact ⟨hfound, hsame, hschedule hfound⟩

/-- **To seed a tracker with a train is as good as to fetch it.** The first tick of a tracker that
holds nothing fetches, at whatever instant. If the fetch finds a train, the tracker has the phase,
the snapshot and the schedule of one that was set up with that train, answers all later calls like
that one, and still has them in common with it after every one. -/
theorem seeded_as_if_fetched (config : TrackerConfig) (train : Train) (first : Instant)
    (calls : List TrackerCall) :
    let seeded := withSnapshot config train
    let fetched := (((new config).tick first).1.complete (.ok (.found train))).1
    ((new config).tick first).2 = .fetch (Zone.Rome.date first) ∧
      (seeded.phase = fetched.phase ∧ seeded.snapshot = fetched.snapshot ∧
        seeded.schedule = fetched.schedule) ∧
      seeded.transcript calls = fetched.transcript calls ∧
      (seeded.after calls).phase = (fetched.after calls).phase ∧
      (seeded.after calls).snapshot = (fetched.after calls).snapshot ∧
      (seeded.after calls).schedule = (fetched.after calls).schedule := by
  intro seeded fetched
  have htick := tick_of_wantsFetch (t := new config) rfl
    (wantsFetch_of_no_snapshot (t := new config) rfl first)
  have hfetched : fetched = (new config).abandon.accept train := by
    simp only [fetched, htick]
    rfl
  have hstart : seeded.Matches fetched := by
    rw [hfetched]
    exact ⟨rfl, rfl, rfl, fun _ => rfl⟩
  obtain ⟨hsame, hend⟩ := hstart.run calls
  have hheld := seeded.isSome_snapshot_after calls (.inl rfl)
  exact ⟨by rw [htick], ⟨hstart.phase, hstart.snapshot, hstart.schedule rfl⟩, hsame, hend.phase,
    hend.snapshot, hend.schedule hheld⟩

end Tracker
end RailWatch

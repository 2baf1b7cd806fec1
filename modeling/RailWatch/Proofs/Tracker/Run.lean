import RailWatch.Tracker.Loop
/-!
# RailWatch.Proofs.Tracker.Run

What a tracker can do, and what holds however it got where it is.

`Tracker.tick_cases` and `Tracker.complete_cases` say all that one operation can do; every fact
about runs is read off these two and not off the definitions. A tracker is **reachable** if it was
set up and then driven by ticks, by the ends of fetches and by giving up fetches, in any order. The
invariant of reachable trackers is `Tracker.Scheduled`: whoever holds a snapshot goes by its
schedule.
-/

namespace RailWatch

/-- A fetch has an outcome exactly if a body was received in time and the body says so. -/
theorem FetchEnding.result_eq_ok_iff {id : String} {budget : Duration} {ending : FetchEnding}
    {outcome : Outcome} :
    ending.result id budget = .ok outcome ↔
      ∃ body, ending = .replied (.ok body) ∧ Journey.ofText id body = .ok outcome := by
  rcases ending with (e | body) | _ | text
  · simp [result]
  · rw [result]
    cases h : Journey.ofText id body <;> simp [h]
  · simp [result]
  · simp [result]

namespace Tracker

/-! ### One operation -/

/-- All that a tick can do: nothing, a skip with the snapshot that is held, or the start of a
fetch. -/
theorem tick_cases (t : Tracker) (now : Instant) :
    (t.phase = .fetching ∧ t.tick now = (t, .busy)) ∨
      (t.phase = .idle ∧ t.wantsFetch now = false ∧
        t.tick now = (t, .publish (.unchanged t.snapshot))) ∨
      (t.phase = .idle ∧ t.wantsFetch now = true ∧
        t.tick now = ({ t with phase := .fetching }, .fetch (Zone.Rome.date now))) := by
  unfold tick
  cases hp : t.phase with
  | fetching => exact .inl ⟨rfl, rfl⟩
  | idle =>
      cases hw : t.wantsFetch now with
      | false => exact .inr (.inl ⟨rfl, rfl, by simp⟩)
      | true => exact .inr (.inr ⟨rfl, rfl, by simp⟩)

/-- An idle tracker that wants to fetch does. -/
theorem tick_of_wantsFetch {t : Tracker} (hi : t.phase = .idle) {now : Instant}
    (hw : t.wantsFetch now = true) :
    t.tick now = ({ t with phase := .fetching }, .fetch (Zone.Rome.date now)) := by
  simp [tick, hi, hw]

/-- All that the end of a fetch can do: take over the train that was found, or leave everything but
the phase alone and tell why. -/
theorem complete_cases (t : Tracker) (result : FetchResult) :
    (∃ train, result = .ok (.found train) ∧
        t.complete result = (t.abandon.accept train, .snapshot train)) ∨
      (result = .ok .notFound ∧ t.complete result = (t.abandon, .unchanged t.snapshot)) ∨
      (∃ failure, result = .error failure ∧
        t.complete result = (t.abandon,
          if failure.isRetryable then .retryable failure.message else .fatal failure.message)) := by
  rcases result with failure | (train | _)
  · exact .inr (.inr ⟨failure, rfl, rfl⟩)
  · exact .inl ⟨train, rfl, rfl⟩
  · exact .inr (.inl ⟨rfl, rfl⟩)

@[simp] theorem tick_snapshot (t : Tracker) (now : Instant) :
    (t.tick now).1.snapshot = t.snapshot := by
  rcases t.tick_cases now with ⟨-, h⟩ | ⟨-, -, h⟩ | ⟨-, -, h⟩ <;> rw [h]

@[simp] theorem tick_schedule (t : Tracker) (now : Instant) :
    (t.tick now).1.schedule = t.schedule := by
  rcases t.tick_cases now with ⟨-, h⟩ | ⟨-, -, h⟩ | ⟨-, -, h⟩ <;> rw [h]
  rfl

@[simp] theorem accept_config (t : Tracker) (train : Train) :
    (t.accept train).config = t.config := rfl
@[simp] theorem accept_snapshot (t : Tracker) (train : Train) :
    (t.accept train).snapshot = some train := rfl

@[simp] theorem complete_config (t : Tracker) (result : FetchResult) :
    (t.complete result).1.config = t.config := by
  rcases t.complete_cases result with ⟨train, -, h⟩ | ⟨-, h⟩ | ⟨failure, -, h⟩ <;> rw [h] <;> rfl

/-- However a fetch ends, the tracker is idle then. -/
@[simp] theorem complete_phase (t : Tracker) (result : FetchResult) :
    (t.complete result).1.phase = .idle := by
  rcases t.complete_cases result with ⟨train, -, h⟩ | ⟨-, h⟩ | ⟨failure, -, h⟩ <;> rw [h] <;> rfl

/-! ### Whole runs -/

/-- A tracker that was set up and driven by its operations, in any order and at any times. -/
inductive Reachable : Tracker → Prop
  | new (config : TrackerConfig) : Reachable (new config)
  | withSnapshot (config : TrackerConfig) (train : Train) : Reachable (withSnapshot config train)
  | tick {t : Tracker} (now : Instant) : Reachable t → Reachable (t.tick now).1
  | complete {t : Tracker} (result : FetchResult) : Reachable t → Reachable (t.complete result).1
  | abandon {t : Tracker} : Reachable t → Reachable t.abandon

/-- The schedule is that of the snapshot that is held, if one is. -/
def Scheduled (t : Tracker) : Prop :=
  ∀ train, t.snapshot = some train → t.schedule = some (train.departure, train.arrival)

theorem Scheduled.tick {t : Tracker} (h : t.Scheduled) (now : Instant) :
    (t.tick now).1.Scheduled := by
  intro train hs
  rw [tick_schedule]
  exact h train (by rwa [tick_snapshot] at hs)

theorem Scheduled.complete {t : Tracker} (h : t.Scheduled) (result : FetchResult) :
    (t.complete result).1.Scheduled := by
  intro train hs
  rcases t.complete_cases result with ⟨found, -, hc⟩ | ⟨-, hc⟩ | ⟨failure, -, hc⟩
  · rw [hc] at hs ⊢
    obtain rfl : found = train := by simpa using hs
    rfl
  · rw [hc] at hs ⊢
    exact h train hs
  · rw [hc] at hs ⊢
    exact h train hs

/-- Every reachable tracker goes by the schedule of the snapshot that it holds. -/
theorem Reachable.scheduled {t : Tracker} (h : t.Reachable) : t.Scheduled := by
  induction h with
  | new config => exact fun train hs => by simp [Tracker.new] at hs
  | withSnapshot config train =>
      intro held hs
      obtain rfl : train = held := by simpa [Tracker.withSnapshot] using hs
      rfl
  | tick now _ ih => exact ih.tick now
  | complete result _ ih => exact ih.complete result
  | abandon _ ih => exact ih

end Tracker

namespace Loop

theorem reachable_step {l : Loop} (h : l.tracker.Reachable) (e : LoopEvent) :
    (l.step e).1.tracker.Reachable := by
  cases e with
  | tick now =>
      have ht := h.tick now
      simp only [step, Loop.tick]
      rcases l.tracker.tick_cases now with ⟨-, hc⟩ | ⟨-, -, hc⟩ | ⟨-, -, hc⟩ <;>
        rw [hc] at ht ⊢ <;> exact ht
  | finish ending =>
      simp only [step, finish]
      cases l.inFlight with
      | none => exact h
      | some day => exact h.complete _

/-- A loop takes its tracker to reachable trackers only. -/
theorem reachable_run {l : Loop} (h : l.tracker.Reachable) (es : List LoopEvent) :
    (l.run es).1.tracker.Reachable := by
  induction es generalizing l with
  | nil => exact h
  | cons e es ih => exact ih (reachable_step h e)

end Loop
end RailWatch

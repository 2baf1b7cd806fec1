import RailWatch.Proofs.Loop.Ledger
/-!
# RailWatch.Proofs.Loop.Stream

What the subscribers of a loop are told is true.

The updates that a loop has published so far determine which train it **holds**: that of the latest
snapshot, or else the one it started out with. An update is `Truthful` if it says no more than what
the loop holds and what came of the fetch that was joined in its turn.

The main result is `Loop.updates_truthful`, on any next turn after any history.
-/

namespace RailWatch

/-- The train that an update brings. -/
def Update.brings? : Update → Option Train
  | snapshot train => some train
  | _ => none

/-- The train of the latest snapshot among the updates, or else `seed`. -/
def held (seed : Option Train) (updates : List Update) : Option Train :=
  updates.foldl (fun train u => u.brings?.or train) seed

theorem held_append (seed : Option Train) (us vs : List Update) :
    held seed (us ++ vs) = held (held seed us) vs :=
  List.foldl_append

/-- What an update says is so. A snapshot is what the body of the joined fetch says about the train;
an update without news carries the train that is held. -/
def Update.Truthful (id : String) (train : Option Train) (joined : Option (Date × FetchEnding)) :
    Update → Prop
  | snapshot found => ∃ day body, joined = some (day, .replied (.ok body)) ∧
      Journey.ofText id body = .ok (.found found)
  | unchanged last => last = train
  | retryable _ | fatal _ => True

/-- A tracker set up with a snapshot to start out with, or without one. -/
def Tracker.seeded (config : TrackerConfig) : Option Train → Tracker
  | none => new config
  | some train => withSnapshot config train

namespace Tracker

@[simp] theorem seeded_phase (config : TrackerConfig) (seed : Option Train) :
    (seeded config seed).phase = .idle := by
  cases seed <;> rfl

@[simp] theorem seeded_snapshot (config : TrackerConfig) (seed : Option Train) :
    (seeded config seed).snapshot = seed := by
  cases seed <;> rfl

@[simp] theorem seeded_trainId (config : TrackerConfig) (seed : Option Train) :
    (seeded config seed).config.trainId = config.trainId := by
  cases seed <;> rfl

end Tracker

namespace Loop

/-! ### One turn -/

@[simp] theorem step_config (l : Loop) (e : LoopEvent) :
    (l.step e).1.tracker.config = l.tracker.config := by
  cases e with
  | tick now =>
      show (l.tick now).1.tracker.config = _
      rcases l.tick_cases now with ⟨-, -, hc⟩ | ⟨-, -, hc⟩ | ⟨-, -, hc⟩ <;> rw [hc]
  | finish ending =>
      show (l.finish ending).1.tracker.config = _
      rcases l.finish_cases ending with ⟨-, hc⟩ | ⟨day, -, hc⟩ <;> rw [hc]
      exact Tracker.complete_config _ _

/-- A turn publishes one update at most. -/
theorem length_published_step_le (l : Loop) (e : LoopEvent) :
    (published (l.step e).2).length ≤ 1 := by
  cases e with
  | tick now =>
      show (published (l.tick now).2).length ≤ 1
      rcases l.tick_cases now with ⟨-, -, hc⟩ | ⟨-, -, hc⟩ | ⟨-, -, hc⟩ <;>
        simp [hc]
  | finish ending =>
      show (published (l.finish ending).2).length ≤ 1
      rcases l.finish_cases ending with ⟨-, hc⟩ | ⟨day, -, hc⟩ <;>
        simp [hc]

/-- The snapshot after a turn is the one before it, unless the turn published a new one. -/
theorem snapshot_step (l : Loop) (e : LoopEvent) :
    (l.step e).1.tracker.snapshot = held l.tracker.snapshot (published (l.step e).2) := by
  cases e with
  | tick now =>
      show (l.tick now).1.tracker.snapshot = held _ (published (l.tick now).2)
      rcases l.tick_cases now with ⟨-, -, hc⟩ | ⟨-, -, hc⟩ | ⟨-, -, hc⟩ <;> rw [hc] <;> rfl
  | finish ending =>
      show (l.finish ending).1.tracker.snapshot = held _ (published (l.finish ending).2)
      rcases l.finish_cases ending with ⟨-, hc⟩ | ⟨day, -, hc⟩ <;> rw [hc]
      · rfl
      · rcases l.tracker.complete_cases (l.resultOf ending) with
          ⟨train, -, ht⟩ | ⟨-, ht⟩ | ⟨failure, -, ht⟩ <;> rw [ht]
        · rfl
        · rfl
        · cases failure.isRetryable <;> rfl

/-- Whatever a turn publishes is so. -/
theorem truthful_step (l : Loop) (e : LoopEvent) :
    ∀ u ∈ published (l.step e).2,
      u.Truthful l.tracker.config.trainId l.tracker.snapshot (l.joined? e) := by
  cases e with
  | tick now =>
      show ∀ u ∈ published (l.tick now).2, _
      rcases l.tick_cases now with ⟨-, -, hc⟩ | ⟨-, -, hc⟩ | ⟨-, -, hc⟩ <;>
        simp [hc, Update.Truthful]
  | finish ending =>
      show ∀ u ∈ published (l.finish ending).2, _
      rcases l.finish_cases ending with ⟨-, hc⟩ | ⟨day, hday, hc⟩ <;> rw [hc]
      · simp
      · intro u hu
        obtain rfl : u = (l.tracker.complete (l.resultOf ending)).2 := by
          simpa using hu
        rcases l.tracker.complete_cases (l.resultOf ending) with
          ⟨train, hr, ht⟩ | ⟨-, ht⟩ | ⟨failure, -, ht⟩ <;> rw [ht]
        · -- a train was found, so a body came back that says so
          obtain ⟨body, rfl, hbody⟩ := FetchEnding.result_eq_ok_iff.mp hr
          exact ⟨day, body, by simp [joined?, hday], hbody⟩
        · rfl
        · cases failure.isRetryable <;> trivial

/-! ### Whole runs -/

@[simp] theorem run_config (l : Loop) (es : List LoopEvent) :
    (l.run es).1.tracker.config = l.tracker.config := by
  induction es generalizing l with
  | nil => rfl
  | cons e es ih => exact (ih (l.step e).1).trans (l.step_config e)

/-- A loop holds the train of the latest snapshot that it published. -/
theorem snapshot_run (l : Loop) (es : List LoopEvent) :
    (l.run es).1.tracker.snapshot = held l.tracker.snapshot (published (l.run es).2) := by
  induction es generalizing l with
  | nil => rfl
  | cons e es ih =>
      have hrest := ih (l.step e).1
      rw [l.snapshot_step e] at hrest
      rw [run_cons, published_append, held_append]
      exact hrest

/-- **The updates of a loop are true.** After any history of a loop, whose tracker started out with
`seed` or nothing: the fetches started are, in order, those joined and the one in flight; the
snapshot is the train held by what was published; the next turn publishes one update at most, which
is truthful; and it changes the snapshot only by a body that was joined and says so. -/
theorem updates_truthful (config : TrackerConfig) (seed : Option Train) (es : List LoopEvent)
    (e : LoopEvent) :
    let first := Loop.start (.seeded config seed)
    let l := (first.run es).1
    let told := published (first.run es).2
    started (first.run es).2 = (first.joins es).map Prod.fst ++ l.inFlight.toList ∧
      l.tracker.snapshot = held seed told ∧
      (published (l.step e).2).length ≤ 1 ∧
      (∀ u ∈ published (l.step e).2,
        u.Truthful config.trainId (held seed told) (l.joined? e)) ∧
      ((l.step e).1.tracker.snapshot = l.tracker.snapshot ∨
        ∃ day body train, l.joined? e = some (day, .replied (.ok body)) ∧
          Journey.ofText config.trainId body = .ok (.found train) ∧
          published (l.step e).2 = [.snapshot train] ∧
          (l.step e).1.tracker.snapshot = some train) := by
  intro first l told
  have hid : l.tracker.config.trainId = config.trainId := by simp [l, first]
  have hsnap : l.tracker.snapshot = held seed told := by simpa [first] using first.snapshot_run es
  have htrue := l.truthful_step e
  rw [hid] at htrue
  have hone := l.length_published_step_le e
  refine ⟨?_, hsnap, hone, hsnap ▸ htrue, ?_⟩
  · simpa [first] using (Loop.inStep_start (Tracker.seeded_phase config seed)).flights_run es
  · -- the snapshot changes with what was published, which is one update at most
    rw [l.snapshot_step e]
    rcases hu : published (l.step e).2 with _ | ⟨u, _ | _⟩
    · exact .inl rfl
    · cases u with
      | snapshot train =>
          obtain ⟨day, body, hj, hbody⟩ := htrue (.snapshot train) (by simp [hu])
          exact .inr ⟨day, body, train, hj, hbody, rfl, rfl⟩
      | unchanged last => exact .inl rfl
      | retryable reason => exact .inl rfl
      | fatal reason => exact .inl rfl
    · simp [hu] at hone

end Loop
end RailWatch

import RailWatch.Proofs.Tracker.Run
/-!
# RailWatch.Proofs.Tracker.Cycle

Fetches that find no train leave no trace.

A tracker is **called** with ticks and with the ends of fetches, in any order, and answers each
call; its **transcript** has every call with the answer to it. A **cycle** is a tick that starts a
fetch, the ticks while the fetch is out, and its end. A cycle that finds no train gives back the
tracker that it began with, whatever went wrong: `Tracker.after_cycle`.

So the transcript of a run can be **thinned**: with any such cycles crossed out, what remains is the
transcript of a run of its own, with the same tracker at the end. This is
`Tracker.fruitless_cycles_leave_no_trace`.
-/

namespace RailWatch

/-- What a tracker is called with. -/
inductive TrackerCall
  | tick (now : Instant)
  | complete (result : FetchResult)

/-- What a tracker answers: what to do after a tick, what to tell the subscribers after a fetch. -/
inductive TrackerAnswer
  | action (a : TickAction)
  | update (u : Update)

/-- Calls with their answers. -/
abbrev Transcript := List (TrackerCall × TrackerAnswer)

namespace Tracker

/-! ### Calls and transcripts -/

/-- The tracker after a call, and its answer. -/
def call (t : Tracker) : TrackerCall → Tracker × TrackerAnswer
  | .tick now => ((t.tick now).1, .action (t.tick now).2)
  | .complete result => ((t.complete result).1, .update (t.complete result).2)

/-- The tracker after calls. -/
def after (t : Tracker) : List TrackerCall → Tracker
  | [] => t
  | c :: cs => (t.call c).1.after cs

/-- Calls with the answers of the tracker. -/
def transcript (t : Tracker) : List TrackerCall → Transcript
  | [] => []
  | c :: cs => (c, (t.call c).2) :: (t.call c).1.transcript cs

@[simp] theorem after_nil (t : Tracker) : t.after [] = t := rfl
@[simp] theorem after_cons (t : Tracker) (c : TrackerCall) (cs : List TrackerCall) :
    t.after (c :: cs) = (t.call c).1.after cs := rfl
@[simp] theorem transcript_nil (t : Tracker) : t.transcript [] = [] := rfl
@[simp] theorem transcript_cons (t : Tracker) (c : TrackerCall) (cs : List TrackerCall) :
    t.transcript (c :: cs) = (c, (t.call c).2) :: (t.call c).1.transcript cs := rfl

theorem after_append (t : Tracker) (cs ds : List TrackerCall) :
    t.after (cs ++ ds) = (t.after cs).after ds := by
  induction cs generalizing t with
  | nil => rfl
  | cons c cs ih => exact ih (t.call c).1

theorem transcript_append (t : Tracker) (cs ds : List TrackerCall) :
    t.transcript (cs ++ ds) = t.transcript cs ++ (t.after cs).transcript ds := by
  induction cs generalizing t with
  | nil => rfl
  | cons c cs ih => simp [ih]

/-- A transcript tells its calls. -/
@[simp] theorem map_fst_transcript (t : Tracker) (cs : List TrackerCall) :
    (t.transcript cs).map Prod.fst = cs := by
  induction cs generalizing t with
  | nil => rfl
  | cons c cs ih => simp [ih]

/-! ### One cycle -/

/-- No train was found: the train does not run, or the fetch failed in whatever way. -/
def Fruitless (result : FetchResult) : Prop :=
  ∀ train, result ≠ .ok (.found train)

/-- The calls of a cycle. -/
def cycle (now : Instant) (meanwhile : List Instant) (result : FetchResult) : List TrackerCall :=
  .tick now :: meanwhile.map .tick ++ [.complete result]

/-- The transcript of a cycle: a tick that starts a fetch, busy ticks, and the end of the fetch. -/
def cycleTranscript (now : Instant) (date : Date) (meanwhile : List Instant) (result : FetchResult)
    (told : Update) : Transcript :=
  (.tick now, .action (.fetch date)) :: meanwhile.map (fun now => (.tick now, .action .busy)) ++
    [(.complete result, .update told)]

theorem map_fst_cycleTranscript (now : Instant) (date : Date) (meanwhile : List Instant)
    (result : FetchResult) (told : Update) :
    (cycleTranscript now date meanwhile result told).map Prod.fst = cycle now meanwhile result := by
  simp [cycleTranscript, cycle, Function.comp_def]

theorem abandon_of_idle {t : Tracker} (h : t.phase = .idle) : t.abandon = t := by
  cases t
  cases h
  rfl

/-- Only an idle tracker starts a fetch, and that is all that the tick does. -/
theorem tick_of_fetch {t : Tracker} {now : Instant} {date : Date}
    (h : (t.tick now).2 = .fetch date) :
    t.phase = .idle ∧ t.tick now = ({ t with phase := .fetching }, .fetch date) := by
  rcases t.tick_cases now with ⟨-, hc⟩ | ⟨-, -, hc⟩ | ⟨hi, -, hc⟩ <;> rw [hc] at h
  · cases h
  · cases h
  · obtain rfl : Zone.Rome.date now = date := TickAction.fetch.inj h
    exact ⟨hi, hc⟩

theorem tick_of_fetching {t : Tracker} (h : t.phase = .fetching) (now : Instant) :
    t.tick now = (t, .busy) := by
  simp [tick, h]

/-- Ticks while a fetch is out do nothing. -/
theorem after_ticks_of_fetching {t : Tracker} (h : t.phase = .fetching) (ticks : List Instant) :
    t.after (ticks.map .tick) = t := by
  induction ticks with
  | nil => rfl
  | cons now ticks ih => simpa [call, tick_of_fetching h] using ih

/-- Ticks while a fetch is out are answered busy. -/
theorem transcript_ticks_of_fetching {t : Tracker} (h : t.phase = .fetching)
    (ticks : List Instant) :
    t.transcript (ticks.map .tick) = ticks.map fun now => (.tick now, .action .busy) := by
  induction ticks with
  | nil => rfl
  | cons now ticks ih => simpa [call, tick_of_fetching h] using ih

/-- A fetch that finds no train ends as if it had been given up. -/
theorem complete_of_fruitless (t : Tracker) {result : FetchResult} (h : Fruitless result) :
    (t.complete result).1 = t.abandon := by
  rcases t.complete_cases result with ⟨train, hr, -⟩ | ⟨-, hc⟩ | ⟨failure, -, hc⟩
  · exact absurd hr (h train)
  · rw [hc]
  · rw [hc]

/-- A cycle that finds no train gives the tracker back that it began with. -/
theorem after_cycle {t : Tracker} {now : Instant} {date : Date}
    (hf : (t.tick now).2 = .fetch date) (meanwhile : List Instant) {result : FetchResult}
    (hr : Fruitless result) : t.after (cycle now meanwhile result) = t := by
  obtain ⟨hi, ht⟩ := tick_of_fetch hf
  have hwait : (t.call (.tick now)).1 = { t with phase := .fetching } := by simp [call, ht]
  rw [cycle, List.cons_append, after_cons, after_append, hwait,
    after_ticks_of_fetching (t := { t with phase := .fetching }) rfl]
  show (complete _ result).1 = t
  rw [complete_of_fruitless _ hr]
  exact abandon_of_idle hi

/-- While the fetch of a cycle is out every tick is answered busy. -/
theorem transcript_cycle {t : Tracker} {now : Instant} {date : Date}
    (hf : (t.tick now).2 = .fetch date) (meanwhile : List Instant) (result : FetchResult) :
    t.transcript (cycle now meanwhile result) =
      cycleTranscript now date meanwhile result (t.complete result).2 := by
  have hcall : t.call (.tick now) = ({ t with phase := .fetching }, .action (.fetch date)) := by
    simp [call, (tick_of_fetch hf).2]
  rw [cycle, List.cons_append, transcript_cons, transcript_append, hcall,
    transcript_ticks_of_fetching (t := { t with phase := .fetching }) rfl,
    after_ticks_of_fetching (t := { t with phase := .fetching }) rfl]
  -- what the end of a fetch leads to does not depend on the phase
  rfl

/-! ### Whole runs -/

/-- The second transcript is the first one with some cycles crossed out, any of those that found no
train. -/
inductive Thinned : Transcript → Transcript → Prop
  | nil : Thinned [] []
  | keep (entry : TrackerCall × TrackerAnswer) {full rest : Transcript} :
      Thinned full rest → Thinned (entry :: full) (entry :: rest)
  | drop (now : Instant) (date : Date) (meanwhile : List Instant) {result : FetchResult}
      (told : Update) {full rest : Transcript} :
      Fruitless result → Thinned full rest →
        Thinned (cycleTranscript now date meanwhile result told ++ full) rest

/-- A transcript that begins with that of a cycle is the one of the calls of that cycle, and then of
those that come after it. -/
theorem cycle_of_transcript {t : Tracker} {calls : List TrackerCall} {now : Instant} {date : Date}
    {meanwhile : List Instant} {result : FetchResult} {told : Update} {rest : Transcript}
    (h : t.transcript calls = cycleTranscript now date meanwhile result told ++ rest) :
    ∃ later, calls = cycle now meanwhile result ++ later ∧ (t.tick now).2 = .fetch date ∧
      (t.after (cycle now meanwhile result)).transcript later = rest := by
  have hcalls : calls = cycle now meanwhile result ++ rest.map Prod.fst := by
    rw [← t.map_fst_transcript calls, h, List.map_append, map_fst_cycleTranscript]
  refine ⟨rest.map Prod.fst, hcalls, ?_, ?_⟩
  · have hhead := congrArg List.head? h
    rw [hcalls] at hhead
    simpa [cycle, cycleTranscript, call] using hhead
  · rw [hcalls, transcript_append] at h
    have hlen : (t.transcript (cycle now meanwhile result)).length =
        (cycleTranscript now date meanwhile result told).length := by
      rw [← List.length_map Prod.fst, map_fst_transcript,
        ← map_fst_cycleTranscript now date meanwhile result told, List.length_map]
    exact (List.append_inj h hlen).2

/-- What is left of a transcript after thinning is the transcript of its own calls, with the same
tracker at the end. -/
theorem transcript_of_thinned {t : Tracker} {calls : List TrackerCall} {rest : Transcript}
    (h : Thinned (t.transcript calls) rest) :
    t.transcript (rest.map Prod.fst) = rest ∧ t.after (rest.map Prod.fst) = t.after calls := by
  generalize hlog : t.transcript calls = full at h
  induction h generalizing t calls with
  | nil =>
      obtain rfl : calls = [] := by
        rw [← t.map_fst_transcript calls, hlog]
        rfl
      exact ⟨rfl, rfl⟩
  | keep entry _ ih =>
      cases calls with
      | nil => cases hlog
      | cons c cs =>
          obtain ⟨rfl, htail⟩ := List.cons.inj hlog
          obtain ⟨hrest, hend⟩ := ih htail
          exact ⟨by simp [hrest], by simpa using hend⟩
  | drop now date meanwhile told hr _ ih =>
      -- after the cycle the tracker is the same again, so the rest is a transcript from here
      obtain ⟨later, rfl, hf, hlater⟩ := cycle_of_transcript hlog
      rw [after_cycle hf meanwhile hr] at hlater
      rw [after_append, after_cycle hf meanwhile hr]
      exact ih hlater

/-- **Fruitless cycles leave no trace.** A tick that starts a fetch, which only an idle tracker
does, any ticks while that is out, all answered busy, and an end in which no train is found give the
same tracker back. And in a run of any tracker, whatever it is called with, any such cycles can be
left out: the remaining calls are answered as before and lead to the same tracker. -/
theorem fruitless_cycles_leave_no_trace (t : Tracker) :
    (∀ now date meanwhile result, (t.tick now).2 = .fetch date → Fruitless result →
      t.after (cycle now meanwhile result) = t ∧
        t.transcript (cycle now meanwhile result) =
          cycleTranscript now date meanwhile result (t.complete result).2) ∧
      ∀ calls rest, Thinned (t.transcript calls) rest →
        t.transcript (rest.map Prod.fst) = rest ∧ t.after (rest.map Prod.fst) = t.after calls := by
  constructor
  · intro now date meanwhile result hf hr
    exact ⟨after_cycle hf meanwhile hr, transcript_cycle hf meanwhile result⟩
  · intro calls rest h
    exact transcript_of_thinned h

/-- A tracker whose first fetch dies, with a busy tick meanwhile, takes the next tick as if it were
the first. -/
theorem fruitless_cycles_leave_no_trace_died :
    let t := Tracker.new (.ofId "10512")
    let died : FetchResult := .error (.task "task 7 panicked")
    let first := cycle (.ofSeconds 60) [.ofSeconds 0] died
    let second : TrackerCall := .tick (.ofSeconds 90)
    (t.tick (.ofSeconds 60)).2 = .fetch ⟨0⟩ ∧ Fruitless died ∧
      Thinned (t.transcript (first ++ [second])) (t.transcript [second]) ∧
      t.after first = t ∧ t.after [second] = t.after (first ++ [second]) := by
  intro t died first second
  have hf : (t.tick (.ofSeconds 60)).2 = .fetch ⟨0⟩ := by decide
  have hr : Fruitless died := fun train => by simp [died]
  obtain ⟨hone, hall⟩ := fruitless_cycles_leave_no_trace t
  obtain ⟨hafter, hlog⟩ := hone _ _ [.ofSeconds 0] _ hf hr
  have hthin : Thinned (t.transcript (first ++ [second])) (t.transcript [second]) := by
    rw [transcript_append, hlog, hafter]
    exact .drop _ _ _ _ hr (.keep _ .nil)
  exact ⟨hf, hr, hthin, hafter, (hall _ _ hthin).2⟩

end Tracker
end RailWatch

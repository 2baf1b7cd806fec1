import RailWatch.Proofs.Loop.Shutdown
import RailWatch.Proofs.Loop.Stream
/-!
# RailWatch.Proofs.Loop.Takeover

What becomes of a tracker that a loop takes over.

A loop starts with no fetch in flight, whatever phase its tracker is in. It is **heedful** as long as
no tick that finds nothing in flight is answered busy. A tracker that is taken over idle makes a
heedful loop: flight and phase are in step from the first turn on. One that waits for a fetch does
not. The fetch is not the loop's, so nothing will ever end it; the loop answers every tick busy and
does nothing else, `Loop.run_start_of_fetching`.

Before a loop takes it over, a tracker may have been called in any way. It waits for a fetch exactly
if its calls are **open**: they started a fetch and did not end it. So `Loop.heedful_iff_not_open`
says which trackers can be taken over. Every tracker that a loop gives back can.
-/

namespace RailWatch

namespace Tracker

/-- A tracker that nobody has called yet: it was just set up, or a loop has just given it back. -/
inductive Uncalled : Tracker → Prop
  | seeded (config : TrackerConfig) (seed : Option Train) : Uncalled (seeded config seed)
  | stopped (l : Loop) (es : List LoopEvent) : Uncalled (l.run es).1.stop

theorem Uncalled.phase_eq {t : Tracker} (h : t.Uncalled) : t.phase = .idle := by
  cases h with
  | seeded config seed => exact seeded_phase config seed
  | stopped l es => rfl

/-- The calls start a fetch of the tracker and do not end it: there are only ticks after it. -/
def OpenAfter (t : Tracker) (calls : List TrackerCall) : Prop :=
  ∃ (before : List TrackerCall) (now : Instant) (date : Date) (ticks : List Instant),
    calls = before ++ .tick now :: ticks.map .tick ∧ ((t.after before).tick now).2 = .fetch date

theorem OpenAfter.phase_eq {t : Tracker} {calls : List TrackerCall} (h : t.OpenAfter calls) :
    (t.after calls).phase = .fetching := by
  obtain ⟨before, now, date, ticks, rfl, hf⟩ := h
  have hphase : (((t.after before).call (.tick now)).1).phase = .fetching := by
    show ((t.after before).tick now).1.phase = .fetching
    rw [(tick_of_fetch hf).2]
  rw [after_append, after_cons, after_ticks_of_fetching hphase]
  exact hphase

theorem after_concat (t : Tracker) (calls : List TrackerCall) (c : TrackerCall) :
    t.after (calls ++ [c]) = ((t.after calls).call c).1 :=
  t.after_append calls [c]

/-- An idle tracker waits for a fetch after calls that leave one open, and after no others. -/
theorem phase_after_eq_fetching_iff {t : Tracker} (h : t.phase = .idle)
    (calls : List TrackerCall) : (t.after calls).phase = .fetching ↔ t.OpenAfter calls := by
  constructor
  · intro hphase
    induction calls using List.reverseRecOn with
    | nil =>
        rw [after_nil, h] at hphase
        cases hphase
    | append_singleton calls c ih =>
        rw [after_concat] at hphase
        cases c with
        | tick now =>
            rcases (t.after calls).tick_cases now with ⟨hp, -⟩ | ⟨hp, -, hc⟩ | ⟨-, -, hc⟩
            · -- one more busy tick of a fetch that was open before it
              obtain ⟨before, first, date, ticks, rfl, hf⟩ := ih hp
              exact ⟨before, first, date, ticks ++ [now], by simp, hf⟩
            · have hskip : ((t.after calls).tick now).1.phase = .fetching := hphase
              rw [hc, hp] at hskip
              cases hskip
            · exact ⟨calls, now, Zone.Rome.date now, [], rfl, by rw [hc]⟩
        | complete result =>
            have hend := (t.after calls).complete_phase result
            have hphase : ((t.after calls).complete result).1.phase = .fetching := hphase
            rw [hend] at hphase
            cases hphase
  · exact OpenAfter.phase_eq

end Tracker

namespace Loop

/-- No tick that finds no fetch in flight is answered busy: each one publishes an update or starts
a fetch. -/
def Heedful (l : Loop) : Prop :=
  l.inFlight = none → ∀ now, (l.tracker.tick now).2 ≠ .busy ∧
    (published (l.tick now).2).length + (started (l.tick now).2).length = 1

/-- With flight and phase in step a loop is heedful. -/
theorem InStep.heedful {l : Loop} (h : l.InStep) : l.Heedful := by
  intro hnone now
  rcases l.tick_cases now with ⟨hp, -⟩ | ⟨-, ha, hc⟩ | ⟨-, ha, hc⟩
  · -- the tracker would wait for a fetch that is not in flight
    have hflight := h.mpr hp
    rw [hnone] at hflight
    cases hflight
  · rw [ha, hc]
    simp
  · rw [ha, hc]
    simp

/-- A loop that takes over a tracker which waits for a fetch never does anything. -/
theorem run_start_of_fetching {t : Tracker} (h : t.phase = .fetching) (es : List LoopEvent) :
    (start t).run es = (start t, []) := by
  induction es with
  | nil => rfl
  | cons e es ih =>
      have hstep : (start t).step e = (start t, []) := by
        cases e with
        | tick now =>
            rcases (start t).tick_cases now with ⟨-, -, hc⟩ | ⟨hp, -⟩ | ⟨hp, -⟩
            · exact hc
            · exact absurd (hp.symm.trans h) (by decide)
            · exact absurd (hp.symm.trans h) (by decide)
        | finish ending => rfl
      rw [run_cons, hstep, ih]
      rfl

theorem not_heedful_start {t : Tracker} (h : t.phase = .fetching) : ¬(start t).Heedful := by
  intro hheedful
  obtain ⟨hbusy, -⟩ := hheedful rfl (.ofSeconds 0)
  exact hbusy (by rw [start_tracker, Tracker.tick_of_fetching h])

/-- A loop is heedful after every history exactly if it took over an idle tracker. -/
theorem forall_heedful_iff (t : Tracker) :
    (∀ es, ((start t).run es).1.Heedful) ↔ t.phase = .idle := by
  constructor
  · intro hall
    cases hp : t.phase with
    | idle => rfl
    | fetching => exact absurd (hall []) (not_heedful_start hp)
  · intro hidle es
    exact ((inStep_start hidle).run es).heedful

/-- **Which trackers can be taken over.** A tracker that was set up, or given back by a loop that was
shut down, is called in any way and then taken over by a loop. If its calls have not left a fetch
open, then whatever reaches the loop in whatever order, every tick that finds no fetch in flight
publishes an update or starts a fetch. If they have, the loop stays as it is and does nothing at all,
whatever reaches it. Either way the tracker that it gives back can be taken over again. -/
theorem heedful_iff_not_open {t : Tracker} (h : t.Uncalled) (calls : List TrackerCall) :
    let l := start (t.after calls)
    ((∀ es, (l.run es).1.Heedful) ↔ ¬t.OpenAfter calls) ∧
      (t.OpenAfter calls → ∀ es, l.run es = (l, [])) ∧
      ∀ es later, ((start (l.run es).1.stop).run later).1.Heedful := by
  intro l
  have hopen := Tracker.phase_after_eq_fetching_iff h.phase_eq calls
  refine ⟨?_, ?_, ?_⟩
  · rw [forall_heedful_iff, ← hopen]
    cases (t.after calls).phase <;> simp
  · intro hleft es
    exact run_start_of_fetching (hopen.mpr hleft) es
  · intro es later
    exact (forall_heedful_iff _).mpr rfl later

/-- A tracker whose fetch was joined, and then skipped a tick, makes a heedful loop. With the tick
before it alone the fetch is open, and the loop is silent. -/
theorem heedful_iff_not_open_nightTrain :
    let t := Tracker.seeded (.ofId "10512") none
    let asked : List TrackerCall := [.tick (.ofSeconds 1710543000)]
    let joined := asked ++ [.complete (.ok (.found Journey.nightTrain))]
    let es : List LoopEvent := [.tick (.ofSeconds 1710543060), .finish .silent]
    t.Uncalled ∧ ¬t.OpenAfter joined ∧ ((start (t.after joined)).run es).1.Heedful ∧
      t.OpenAfter asked ∧ (start (t.after asked)).run es = (start (t.after asked), []) := by
  intro t asked joined es
  have huncalled : t.Uncalled := .seeded _ _
  have hopen : t.OpenAfter asked :=
    ⟨[], .ofSeconds 1710543000, ⟨19797⟩, [], rfl, by decide⟩
  have hclosed : ¬t.OpenAfter joined := by
    intro hleft
    have hphase := hleft.phase_eq
    revert hphase
    decide
  have hjoined := heedful_iff_not_open huncalled joined
  have hasked := heedful_iff_not_open huncalled asked
  exact ⟨huncalled, hclosed, hjoined.1.mpr hclosed es, hopen, hasked.2.1 hopen es⟩

/-- The first tick of a tracker asks for a fetch, and a loop takes the tracker over. Its first tick,
a minute later, is answered busy though no fetch is in flight, and nothing is ever published or
started. -/
theorem silent_after_takeover :
    let t := ((Tracker.new (.ofId "10512")).tick (.ofSeconds 1710543000)).1
    t.Reachable ∧ (start t).inFlight = none ∧
      ((start t).tracker.tick (.ofSeconds 1710543060)).2 = .busy ∧
      ∀ es, published ((start t).run es).2 = [] ∧ started ((start t).run es).2 = [] := by
  intro t
  have hphase : t.phase = .fetching := by decide
  refine ⟨.tick _ (.new _), rfl, by decide, fun es => ?_⟩
  rw [run_start_of_fetching hphase]
  exact ⟨rfl, rfl⟩

end Loop
end RailWatch

import RailWatch.Polling
import RailWatch.Proofs.Zone.Order
/-!
# RailWatch.Proofs.Polling.Stages

The decisions of a day, one after the other.

On the day of the departure the decisions come in **stages**: too early, near the departure, en
route, settling, too late. A stage is `Reached` from a moment on, said for each stage apart from the
others and from the order in which `PollWindow.decide` looks at them. The decision is the last stage
that is reached (`PollWindow.stage_decide`), so a tick polls between the second stage and the last
(`PollWindow.shouldPoll_iff_reached`). As no stage is lost again (`PollWindow.Reached.mono`), the
decisions never go back, and the moments that poll form one interval.
-/

namespace RailWatch

/-- The stage of a decision, if it is one of those that follow each other on the day of the
departure. -/
def PollDecision.stage? : PollDecision → Option Nat
  | tooEarly => some 0
  | nearDeparture => some 1
  | enRoute => some 2
  | settling => some 3
  | tooLate => some 4
  | dayChanged | firstPoll => none

/-- One decision comes no later on the day than the other. -/
def PollDecision.NotAfter (d d' : PollDecision) : Prop :=
  ∃ m n, d.stage? = some m ∧ d'.stage? = some n ∧ m ≤ n

theorem PollDecision.polls_iff_of_stage? {d : PollDecision} {m : Nat} (h : d.stage? = some m) :
    d.polls = true ↔ 1 ≤ m ∧ ¬4 ≤ m := by
  cases d <;> simp_all [PollDecision.stage?, PollDecision.polls] <;> omega

/-- The nanoseconds from the start of 1970 to an instant, without leap seconds. -/
def Instant.total (i : Instant) : Int :=
  i.seconds * nanosPerSecond + i.nanos

/-- Away from leap seconds a span is the difference of two points on one line. -/
theorem Instant.since_nanos {a b : Instant} (ha : a.isLeap = false) (hb : b.isLeap = false) :
    (a.since b).nanos = a.total - b.total := by
  rw [since_of_not_leap ha hb]
  simp only [total, nanosPerSecond]
  omega

/-- Away from leap seconds the nanoseconds count up with time. -/
theorem Instant.total_le_total {a b : Instant} (ha : a.isLeap = false) (h : a ≤ b) :
    a.total ≤ b.total := by
  have hnanos : ¬nanosPerSecond ≤ a.nanos := of_decide_eq_false ha
  unfold nanosPerSecond at hnanos
  simp only [total, nanosPerSecond]
  rcases h with h | ⟨h, hle⟩ <;> omega

namespace PollWindow

/-- The stage has come, whether or not a later one has. -/
def Reached (w : PollWindow) (now departure arrival : Instant) : Nat → Prop
  | 0 => True
  | 1 => departure ≤ now ∨ departure.since now < w.before
  | 2 => departure ≤ now
  | 3 => departure ≤ now ∧ arrival < now
  | 4 => departure ≤ now ∧ arrival < now ∧ w.after ≤ now.since arrival
  | _ => False

/-- Beyond the last of the five stages none is reached. -/
theorem forall_le_iff_reached {w : PollWindow} {now departure arrival : Instant} {m : Nat} :
    (∀ k, k ≤ m ↔ w.Reached now departure arrival k) ↔
      m ≤ 4 ∧ (1 ≤ m ↔ w.Reached now departure arrival 1) ∧
        (2 ≤ m ↔ w.Reached now departure arrival 2) ∧
        (3 ≤ m ↔ w.Reached now departure arrival 3) ∧
        (4 ≤ m ↔ w.Reached now departure arrival 4) := by
  constructor
  · intro h
    exact ⟨Nat.not_lt.mp fun hlt => (h 5).mp hlt, h 1, h 2, h 3, h 4⟩
  · rintro ⟨hm, h1, h2, h3, h4⟩ k
    match k with
    | 0 => exact iff_of_true (Nat.zero_le m) trivial
    | 1 => exact h1
    | 2 => exact h2
    | 3 => exact h3
    | 4 => exact h4
    | _ + 5 => exact iff_of_false (by omega) id

/-- The decision is the last stage that is reached. -/
theorem stage_decide (w : PollWindow) {now departure : Instant} (arrival : Instant)
    (hday : Zone.Rome.date now = Zone.Rome.date departure) :
    ∃ m, (w.decide now departure arrival true).stage? = some m ∧
      ∀ k, k ≤ m ↔ w.Reached now departure arrival k := by
  have hsame : Zone.Rome.sameDay now departure = true := by simpa [Zone.Rome.sameDay] using hday
  simp only [decide, hsame, Bool.not_true, Bool.false_eq_true, if_false, forall_le_iff_reached]
  by_cases hearly : now < departure
  · have hnot : ¬departure ≤ now := Instant.not_le.mpr hearly
    rw [if_pos hearly]
    by_cases hnear : departure.since now < w.before
    · rw [if_pos hnear]
      exact ⟨1, rfl, by simp [Reached, hnot, hnear]⟩
    · rw [if_neg hnear]
      exact ⟨0, rfl, by simp [Reached, hnot, hnear]⟩
  · have hpast : departure ≤ now := Instant.not_lt.mp hearly
    rw [if_neg hearly]
    by_cases hlate : arrival < now
    · rw [if_pos hlate]
      by_cases hrecent : now.since arrival < w.after
      · have hnot : ¬w.after ≤ now.since arrival := Int.not_le.mpr hrecent
        rw [if_pos hrecent]
        exact ⟨3, rfl, by simp [Reached, hpast, hlate, hnot]⟩
      · have hover : w.after ≤ now.since arrival := Int.not_lt.mp hrecent
        rw [if_neg hrecent]
        exact ⟨4, rfl, by simp [Reached, hpast, hlate, hover]⟩
    · rw [if_neg hlate]
      exact ⟨2, rfl, by simp [Reached, hpast, hlate]⟩

variable {w : PollWindow} {departure arrival : Instant}

/-- A stage that is reached stays reached. -/
theorem Reached.mono {now later : Instant} (hnow : now.isLeap = false)
    (hlater : later.isLeap = false) (hdep : departure.isLeap = false)
    (harr : arrival.isLeap = false) (hle : now ≤ later) {k : Nat}
    (h : w.Reached now departure arrival k) : w.Reached later departure arrival k := by
  have htotal := Instant.total_le_total hnow hle
  match k with
  | 0 => trivial
  | 1 =>
    refine h.imp (fun h => Instant.le_trans h hle) fun h => ?_
    rw [Span.lt_def, Instant.since_nanos hdep hnow] at h
    rw [Span.lt_def, Instant.since_nanos hdep hlater]
    omega
  | 2 => exact Instant.le_trans h hle
  | 3 => exact ⟨Instant.le_trans h.1 hle, Instant.lt_of_lt_of_le h.2 hle⟩
  | 4 =>
    obtain ⟨hpast, hlate, hover⟩ := h
    refine ⟨Instant.le_trans hpast hle, Instant.lt_of_lt_of_le hlate hle, ?_⟩
    rw [Span.le_def, Instant.since_nanos hnow harr] at hover
    rw [Span.le_def, Instant.since_nanos hlater harr]
    omega
  | _ + 5 => exact h.elim

/-- A tick polls once it is near the departure and until it is too late. -/
theorem shouldPoll_iff_reached {now : Instant}
    (hday : Zone.Rome.date now = Zone.Rome.date departure) :
    w.shouldPoll now departure arrival true = true ↔
      w.Reached now departure arrival 1 ∧ ¬w.Reached now departure arrival 4 := by
  obtain ⟨m, hm, hreached⟩ := w.stage_decide arrival hday
  rw [shouldPoll, PollDecision.polls_iff_of_stage? hm, hreached, hreached]

/-- On another day than that of the departure every tick polls. -/
theorem shouldPoll_of_date_ne (w : PollWindow) {now departure arrival : Instant} {held : Bool}
    (h : Zone.Rome.date now ≠ Zone.Rome.date departure) :
    w.shouldPoll now departure arrival held = true := by
  simp [shouldPoll, decide, Zone.Rome.sameDay, h, PollDecision.polls]

/-- Without a snapshot every tick polls: the schedule is that of another day, or nothing was fetched
yet. -/
theorem shouldPoll_of_no_snapshot (w : PollWindow) (now departure arrival : Instant) :
    w.shouldPoll now departure arrival false = true := by
  cases h : Zone.Rome.sameDay now departure <;> simp [shouldPoll, decide, h, PollDecision.polls]

/-- On the day of the departure a tick polls if it is neither too early nor too late. Each of the two
is said without the other, as the train arrives no earlier than it departs. -/
theorem shouldPoll_iff (w : PollWindow) {now departure arrival : Instant}
    (horder : departure ≤ arrival) (hday : Zone.Rome.date now = Zone.Rome.date departure) :
    w.shouldPoll now departure arrival true = true ↔
      (departure ≤ now ∨ departure.since now < w.before) ∧
        (now ≤ arrival ∨ now.since arrival < w.after) := by
  rw [shouldPoll_iff_reached hday]
  refine and_congr_right fun _ => ?_
  constructor
  · intro hnot
    by_cases hlate : arrival < now
    · have hpast := Instant.le_trans horder (Instant.le_of_lt hlate)
      exact .inr (Int.not_le.mp fun hover => hnot ⟨hpast, hlate, hover⟩)
    · exact .inl (Instant.not_lt.mp hlate)
  · rintro (hahead | hrecent) ⟨-, hlate, hover⟩
    · exact Instant.not_lt.mpr hahead hlate
    · exact Int.not_le.mpr hrecent hover

/-- **The decisions of a day do not go back.** Whatever the window and the schedule, on the day of
the departure a later decision is not of an earlier stage. So polling goes on without a break: if
two moments of that day poll, all between them do. -/
theorem decisions_progress (w : PollWindow) {departure arrival : Instant}
    (hdep : departure.isLeap = false) (harr : arrival.isLeap = false) :
    (∀ now later, now.isLeap = false → later.isLeap = false → now ≤ later →
        Zone.Rome.date now = Zone.Rome.date departure →
        Zone.Rome.date later = Zone.Rome.date departure →
          (w.decide now departure arrival true).NotAfter
            (w.decide later departure arrival true)) ∧
      ∀ first now last, first.isLeap = false → now.isLeap = false → last.isLeap = false →
        first ≤ now → now ≤ last → Zone.Rome.date first = Zone.Rome.date departure →
        Zone.Rome.date last = Zone.Rome.date departure →
          w.shouldPoll first departure arrival true = true →
          w.shouldPoll last departure arrival true = true →
            w.shouldPoll now departure arrival true = true := by
  constructor
  · intro now later hnow hlater hle hday hday'
    obtain ⟨m, hm, hreached⟩ := w.stage_decide arrival hday
    obtain ⟨n, hn, hreached'⟩ := w.stage_decide arrival hday'
    refine ⟨m, n, hm, hn, (hreached' m).mpr ?_⟩
    exact ((hreached m).mp (Nat.le_refl m)).mono hnow hlater hdep harr hle
  · intro first now last hfirst hnow hlast hle hle' hday hday' hpolls hpolls'
    have hbetween := Zone.Rome.date_eq_of_between hle hle' hday hday'
    rw [shouldPoll_iff_reached hday] at hpolls
    rw [shouldPoll_iff_reached hday'] at hpolls'
    rw [shouldPoll_iff_reached hbetween]
    exact ⟨hpolls.1.mono hfirst hnow hdep harr hle,
      fun hover => hpolls'.2 (hover.mono hnow hlast hdep harr hle')⟩

/-- In the night in which the clocks are put back: shortly before a departure at half past two, at
half past two when it comes for the second time, and shortly after the arrival at three. -/
theorem decisions_progress_clocksBack :
    let w := ofMinutes 30 10
    let departure := Instant.ofSeconds 1729989000
    let arrival := Instant.ofSeconds 1729994400
    let first := Instant.ofSeconds 1729987260
    let now := Instant.ofSeconds 1729992600
    let last := Instant.ofSeconds 1729994940
    (first ≤ now ∧ now ≤ last ∧ Zone.Rome.date first = Zone.Rome.date departure ∧
        Zone.Rome.date last = Zone.Rome.date departure) ∧
      (w.decide first departure arrival true).NotAfter (w.decide last departure arrival true) ∧
      w.shouldPoll first departure arrival true = true ∧
      w.shouldPoll last departure arrival true = true ∧
      w.shouldPoll now departure arrival true = true := by
  intro w departure arrival first now last
  have hle : first ≤ now := by decide
  have hle' : now ≤ last := by decide
  have hday : Zone.Rome.date first = Zone.Rome.date departure := by decide
  have hday' : Zone.Rome.date last = Zone.Rome.date departure := by decide
  have hpolls : w.shouldPoll first departure arrival true = true := by decide
  have hpolls' : w.shouldPoll last departure arrival true = true := by decide
  have hdep : departure.isLeap = false := rfl
  have harr : arrival.isLeap = false := rfl
  have h := decisions_progress w hdep harr
  exact ⟨⟨hle, hle', hday, hday'⟩,
    h.1 first last rfl rfl (Instant.le_trans hle hle') hday hday', hpolls, hpolls',
    h.2 first now last rfl rfl rfl hle hle' hday hday' hpolls hpolls'⟩

end PollWindow
end RailWatch

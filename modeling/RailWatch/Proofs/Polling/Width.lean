import RailWatch.Proofs.Polling.Stages
/-!
# RailWatch.Proofs.Polling.Width

Wider polling windows.

A window lies `Within` another one if it is no longer before the departure and no longer after the
arrival. Then the other one polls whenever it does, `PollWindow.Within.shouldPoll`: it is near the
departure as soon, and too late no sooner.

Windows are made from two counts of minutes. A greater count makes a longer span as long as spans
can hold the counts, and a count that is too great for them makes the longest one. But so does a
count that is too far below zero, and there the order is lost: the shortest wish makes the longest
window. `PollWindow.shouldPoll_of_wider` therefore asks of a count that a span can hold that the
smaller one can be held too.
-/

namespace RailWatch

namespace Span

/-- A span can hold so many minutes. -/
def HoldsMinutes (n : Int) : Prop :=
  -maxMillis ≤ n * 60000 ∧ n * 60000 ≤ maxMillis

theorem ofMinutes_of_holds {n : Int} (h : HoldsMinutes n) : ofMinutes n = ofSeconds (n * 60) := by
  simp [ofMinutes, h.1, h.2]

/-- Whatever no span can hold is taken for the longest one, on either side of zero. -/
theorem ofMinutes_of_not_holds {n : Int} (h : ¬HoldsMinutes n) : ofMinutes n = longest := by
  simp only [HoldsMinutes] at h
  simp [ofMinutes, h]

theorem ofMinutes_le_longest (n : Int) : ofMinutes n ≤ longest := by
  by_cases h : HoldsMinutes n
  · rw [ofMinutes_of_holds h, le_def]
    obtain ⟨-, hup⟩ := h
    unfold maxMillis at hup
    simp only [ofSeconds, longest, maxMillis, nanosPerSecond]
    omega
  · rw [ofMinutes_of_not_holds h]
    exact Int.le_refl _

/-- A greater number of minutes makes a longer span, unless the smaller one alone is too far below
zero. -/
theorem ofMinutes_le_ofMinutes {m n : Int} (h : m ≤ n) (hheld : HoldsMinutes n → HoldsMinutes m) :
    ofMinutes m ≤ ofMinutes n := by
  by_cases hn : HoldsMinutes n
  · rw [ofMinutes_of_holds hn, ofMinutes_of_holds (hheld hn), le_def]
    simp only [ofSeconds, nanosPerSecond]
    omega
  · rw [ofMinutes_of_not_holds hn]
    exact ofMinutes_le_longest m

end Span

namespace PollWindow

/-- The first window is no longer than the second, neither before the departure nor after the
arrival. -/
structure Within (w w' : PollWindow) : Prop where
  before : w.before ≤ w'.before
  after : w.after ≤ w'.after

variable {w w' : PollWindow} {now departure arrival : Instant}

/-- A wider window is near the departure as soon. -/
theorem Within.near (h : w.Within w') (hnear : w.Reached now departure arrival 1) :
    w'.Reached now departure arrival 1 :=
  hnear.imp_right fun hlt => Int.lt_of_lt_of_le hlt h.before

/-- A wider window is too late no sooner. -/
theorem Within.late (h : w.Within w') (hlate : w'.Reached now departure arrival 4) :
    w.Reached now departure arrival 4 := by
  obtain ⟨hpast, harrived, hover⟩ := hlate
  exact ⟨hpast, harrived, Int.le_trans h.after hover⟩

/-- A wider window polls whenever a narrower one does. -/
theorem Within.shouldPoll (h : w.Within w') {held : Bool}
    (hpolls : w.shouldPoll now departure arrival held = true) :
    w'.shouldPoll now departure arrival held = true := by
  by_cases hday : Zone.Rome.date now = Zone.Rome.date departure
  · cases held with
    | false => exact w'.shouldPoll_of_no_snapshot now departure arrival
    | true =>
        rw [shouldPoll_iff_reached hday] at hpolls ⊢
        exact ⟨h.near hpolls.1, fun hlate => hpolls.2 (h.late hlate)⟩
  · exact w'.shouldPoll_of_date_ne hday

theorem within_ofMinutes {before before' after after' : Int} (hbefore : before ≤ before')
    (hafter : after ≤ after') (hheld : Span.HoldsMinutes before' → Span.HoldsMinutes before)
    (hheld' : Span.HoldsMinutes after' → Span.HoldsMinutes after) :
    (ofMinutes before after).Within (ofMinutes before' after') :=
  ⟨Span.ofMinutes_le_ofMinutes hbefore hheld, Span.ofMinutes_le_ofMinutes hafter hheld'⟩

/-- **More minutes poll no less.** If both counts of minutes are raised, every tick that polled
still does, whatever the schedule and whether or not there is a snapshot. The counts may be negative
or too great for a span. Only one that is too far below zero for a span must not be raised to one
that a span can hold. -/
theorem shouldPoll_of_wider {before before' after after' : Int} (hbefore : before ≤ before')
    (hafter : after ≤ after') (hheld : Span.HoldsMinutes before' → Span.HoldsMinutes before)
    (hheld' : Span.HoldsMinutes after' → Span.HoldsMinutes after) (now departure arrival : Instant)
    (held : Bool)
    (hpolls : (ofMinutes before after).shouldPoll now departure arrival held = true) :
    (ofMinutes before' after').shouldPoll now departure arrival held = true :=
  (within_ofMinutes hbefore hafter hheld hheld').shouldPoll hpolls

/-- Half an hour is raised beyond all spans, and the least number of minutes that a span can hold to
none; ten minutes before a departure both windows poll. -/
theorem shouldPoll_of_wider_oversized :
    let now := Instant.ofSeconds 1710492600
    let departure := Instant.ofSeconds 1710493200
    let arrival := Instant.ofSeconds 1710496800
    (30 : Int) ≤ 9223372036854775807 ∧ (-153722867280912 : Int) ≤ 0 ∧
      (Span.HoldsMinutes 9223372036854775807 → Span.HoldsMinutes 30) ∧
      (Span.HoldsMinutes 0 → Span.HoldsMinutes (-153722867280912)) ∧
      (ofMinutes 30 (-153722867280912)).shouldPoll now departure arrival true = true ∧
      (ofMinutes 9223372036854775807 0).shouldPoll now departure arrival true = true := by
  intro now departure arrival
  have hheld : Span.HoldsMinutes 9223372036854775807 → Span.HoldsMinutes 30 :=
    fun _ => ⟨by decide, by decide⟩
  have hheld' : Span.HoldsMinutes 0 → Span.HoldsMinutes (-153722867280912) :=
    fun _ => ⟨by decide, by decide⟩
  have hpolls : (ofMinutes 30 (-153722867280912)).shouldPoll now departure arrival true = true := by
    decide
  exact ⟨by decide, by decide, hheld, hheld', hpolls,
    shouldPoll_of_wider (by decide) (by decide) hheld hheld' now departure arrival true hpolls⟩

/-- Two hours before a departure the window of the least count polls, and that of half an hour does
not. -/
theorem least_count_polls_more :
    let now := Instant.ofSeconds 1710486000
    let departure := Instant.ofSeconds 1710493200
    let arrival := Instant.ofSeconds 1710496800
    (-9223372036854775808 : Int) ≤ 30 ∧ (10 : Int) ≤ 10 ∧
      (ofMinutes (-9223372036854775808) 10).shouldPoll now departure arrival true = true ∧
      (ofMinutes 30 10).shouldPoll now departure arrival true = false := by
  decide

end PollWindow
end RailWatch

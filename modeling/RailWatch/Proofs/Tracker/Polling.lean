import RailWatch.Proofs.Journey.Schedule
import RailWatch.Proofs.Polling.Stages
import RailWatch.Proofs.Tracker.Run
/-!
# RailWatch.Proofs.Tracker.Polling

When an idle tracker fetches that holds a train.

On the day of the departure a tick polls if it is neither too early nor too late. Each of the two can
be said without the other as long as the train arrives no earlier than it departs. For a train that
was found in a payload this is so, and with the schedule invariant of reachable trackers it gives
`Tracker.tick_dated`.

A train that is under way is fetched at every tick, `Tracker.tick_under_way`, but for the day of the
tick: after midnight that is not the service date of an overnight train any more.
-/

namespace RailWatch

namespace Tracker

open Journey

/-- Whether a tracker fetches goes by the schedule of the train that it holds. -/
theorem Scheduled.wantsFetch_eq {t : Tracker} (h : t.Scheduled) {train : Train}
    (hs : t.snapshot = some train) (now : Instant) :
    t.wantsFetch now = t.config.window.shouldPoll now train.departure train.arrival true := by
  simp [wantsFetch, h train hs, hs]

/-- **When a dated train is polled.** An idle tracker that holds a train of the service date `date`
fetches for the day of the tick if that is another day. On `date` itself it fetches exactly if the
departure is past or less than the one bound ahead, and the arrival ahead or less than the other
bound ago. Else it tells again what it holds and stays as it is. -/
theorem tick_dated {t : Tracker} (hr : t.Reachable) (hi : t.phase = .idle) {id : String}
    {date : Date} {train : Train} (hs : t.snapshot = some train) (hd : Dated id date train)
    {now : Instant} (hnow : now.isLeap = false) (hdep : train.departure.isLeap = false)
    (harr : train.arrival.isLeap = false) :
    (Zone.Rome.date now ≠ date → (t.tick now).2 = .fetch (Zone.Rome.date now)) ∧
      (Zone.Rome.date now = date →
        ((t.tick now).2 = .fetch date ↔
          (train.departure ≤ now ∨
              train.departure.total - now.total < t.config.window.before.nanos) ∧
            (now ≤ train.arrival ∨
              now.total - train.arrival.total < t.config.window.after.nanos)) ∧
        ((t.tick now).2 ≠ .fetch date → t.tick now = (t, .publish (.unchanged (some train))))) := by
  have hw := hr.scheduled.wantsFetch_eq hs now
  have hfall := hd.date_departure
  constructor
  · -- on another day the window does not matter
    intro hne
    rw [PollWindow.shouldPoll_of_date_ne _ (by rwa [hfall])] at hw
    rcases t.tick_cases now with ⟨hp, -⟩ | ⟨-, hn, -⟩ | ⟨-, -, ht⟩
    · rw [hi] at hp
      cases hp
    · rw [hw] at hn
      cases hn
    · rw [ht]
  · intro heq
    have hiff := t.config.window.shouldPoll_iff hd.departure_le_arrival (heq.trans hfall.symm)
    rw [← hw, Span.lt_def, Span.lt_def, Instant.since_nanos hdep hnow,
      Instant.since_nanos hnow harr] at hiff
    rw [← hiff]
    rcases t.tick_cases now with ⟨hp, -⟩ | ⟨-, hn, ht⟩ | ⟨-, hy, ht⟩
    · rw [hi] at hp
      cases hp
    · rw [ht, hn, hs]
      simp
    · rw [ht, hy, heq]
      simp

/-- Half an hour and more before a departure at 23:40 a tick is skipped, though the train arrives on
the next day only. -/
theorem tick_dated_nightTrain :
    let t := withSnapshot (.ofId "10512") nightTrain
    let now := Instant.ofSeconds 1710540600
    t.Reachable ∧ t.phase = .idle ∧ t.snapshot = some nightTrain ∧
      Dated "10512" ⟨19797⟩ nightTrain ∧ now.isLeap = false ∧
      nightTrain.departure.isLeap = false ∧ nightTrain.arrival.isLeap = false ∧
      Zone.Rome.date now = ⟨19797⟩ ∧
      t.tick now = (t, .publish (.unchanged (some nightTrain))) := by
  intro t now
  have hr : t.Reachable := .withSnapshot _ _
  have hday : Zone.Rome.date now = ⟨19797⟩ := by decide +kernel
  have hnow : now.isLeap = false := rfl
  have h := (tick_dated hr rfl rfl dated_nightTrain hnow rfl rfl).2 hday
  refine ⟨hr, rfl, rfl, dated_nightTrain, hnow, rfl, rfl, hday, h.2 fun hfetch => ?_⟩
  exact absurd (h.1.mp hfetch) (by decide +kernel)

/-- **A train under way.** Between the departure and the arrival of the train that it holds an idle
tracker always fetches. While the service date lasts it fetches for that date. Past midnight it
fetches for the day after, although the train, which arrives on that day, is still the one of the
service date. -/
theorem tick_under_way {t : Tracker} (hr : t.Reachable) (hi : t.phase = .idle) {id : String}
    {date : Date} {train : Train} (hs : t.snapshot = some train) (hd : Dated id date train)
    {now : Instant} (hdep : train.departure ≤ now) (harr : now ≤ train.arrival) :
    t.tick now = ({ t with phase := .fetching }, .fetch (Zone.Rome.date now)) ∧
      (Zone.Rome.date now = date ∨
        Zone.Rome.date now = date.next ∧ Zone.Rome.date train.arrival = date.next) := by
  have hfall := hd.date_departure
  constructor
  · refine tick_of_wantsFetch hi ?_
    rw [hr.scheduled.wantsFetch_eq hs now]
    by_cases hday : Zone.Rome.date now = date
    · rw [PollWindow.shouldPoll_iff _ hd.departure_le_arrival (hday.trans hfall.symm)]
      exact ⟨.inl hdep, .inl harr⟩
    · exact PollWindow.shouldPoll_of_date_ne _ (by rwa [hfall])
  · -- the day of the tick lies between the days of the departure and of the arrival
    have hfirst := Zone.Rome.date_le hdep
    have hlast := Zone.Rome.date_le harr
    rw [hfall] at hfirst
    simp only [Date.eq_iff_day, Date.next_day]
    rcases hd.date_arrival with hon | hnext
    · rw [hon] at hlast
      omega
    · rw [hnext, Date.next_day] at hlast ⊢
      omega

/-- Ten minutes after it departed at 23:40 the night train is fetched for its service date. -/
theorem tick_under_way_nightTrain :
    let t := withSnapshot (.ofId "10512") nightTrain
    let now := Instant.ofSeconds 1710543000
    t.Reachable ∧ t.phase = .idle ∧ t.snapshot = some nightTrain ∧
      Dated "10512" ⟨19797⟩ nightTrain ∧ nightTrain.departure ≤ now ∧ now ≤ nightTrain.arrival ∧
      t.tick now = ({ t with phase := .fetching }, .fetch ⟨19797⟩) := by
  intro t now
  have hr : t.Reachable := .withSnapshot _ _
  have hdep : nightTrain.departure ≤ now := by decide
  have harr : now ≤ nightTrain.arrival := by decide
  have hday : Zone.Rome.date now = ⟨19797⟩ := by decide
  have h := (tick_under_way hr rfl rfl dated_nightTrain hdep harr).1
  rw [hday] at h
  exact ⟨hr, rfl, rfl, dated_nightTrain, hdep, harr, h⟩

/-- Twenty minutes later, still a quarter of an hour before it arrives, it is not: the tracker asks
for the train of the new day instead. -/
theorem fetch_after_midnight :
    let t := (((new (.ofId "10512")).tick (.ofSeconds 1710543000)).1.complete
      (.ok (.found nightTrain))).1
    let now := Instant.ofSeconds 1710544200
    t.Reachable ∧ t.phase = .idle ∧ t.snapshot = some nightTrain ∧
      Dated "10512" ⟨19797⟩ nightTrain ∧ nightTrain.departure ≤ now ∧ now ≤ nightTrain.arrival ∧
      (t.tick now).2 = .fetch ⟨19798⟩ ∧ (t.tick now).2 ≠ .fetch ⟨19797⟩ := by
  intro t now
  have hr : t.Reachable := .complete _ (.tick _ (.new _))
  have hfetch : (t.tick now).2 = .fetch ⟨19798⟩ := by decide
  refine ⟨hr, rfl, rfl, dated_nightTrain, by decide, by decide, hfetch, ?_⟩
  rw [hfetch]
  decide

end Tracker
end RailWatch

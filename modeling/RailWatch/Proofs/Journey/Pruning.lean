import RailWatch.Proofs.Journey.Position
/-!
# RailWatch.Proofs.Journey.Pruning

What of a payload counts.

A payload is **pruned** by taking away all that its outcome does not depend on: the days behind the
first one, the journeys behind the first one of that day, the passes of that journey behind its
confirmed run, and the name of the station of the arrival. Pruning changes neither a snapshot nor an
error, `Journey.ofDays_prune`. So two payloads whose first days `CountAlike` have the same outcome,
whatever else is in them.
-/

namespace RailWatch

open Payload

namespace Journey

/-! ### Pruning -/

/-- The run of the run is the run. -/
theorem position?_confirmedPrefix (passes : List PassRecord) :
    position? (confirmedPrefix passes) = position? passes := by
  have hrun : confirmedPrefix (confirmedPrefix passes) = confirmedPrefix passes := by
    unfold confirmedPrefix
    rw [List.takeWhile_takeWhile]
    simp
  rw [position?, position?, hrun]

/-- A journey without the passes behind its confirmed run. -/
def pruneJourney (journey : JourneyRecord) : JourneyRecord :=
  { journey with passes := confirmedPrefix journey.passes }

/-- A day without what does not count: of its journeys there is the first one only, pruned, and the
station of the arrival has no name. -/
def pruneDay (day : DayRecord) : DayRecord :=
  { day with
    arrivalStation := { day.arrivalStation with name := none }
    journeys := (day.journeys.take 1).map pruneJourney }

/-- The days of a payload that count: the first one, pruned. -/
def prune (days : List DayRecord) : List DayRecord :=
  (days.take 1).map pruneDay

theorem ofDay_pruneDay (id : String) (day : DayRecord) : ofDay id (pruneDay day) = ofDay id day := by
  rcases hjourneys : day.journeys with _ | ⟨journey, more⟩
  · simp [ofDay, pruneDay, hjourneys]
  · simp [ofDay, pruneDay, pruneJourney, hjourneys, position?_confirmedPrefix]

/-- What pruning takes away does not change the outcome. -/
theorem ofDays_prune (id : String) (days : List DayRecord) :
    ofDays id (prune days) = ofDays id days := by
  cases days with
  | nil => rfl
  | cons day later =>
      show (ofDay id (pruneDay day)).map Outcome.found = (ofDay id day).map Outcome.found
      rw [ofDay_pruneDay]

/-! ### Two payloads -/

/-- The first journeys of two days say the same about the train, and their passes have the same
confirmed run. -/
def JourneysCountAlike (journeys journeys' : List JourneyRecord) : Prop :=
  ∃ first more first' more' run, journeys = first :: more ∧ journeys' = first' :: more' ∧
    first.train = first'.train ∧ IsConfirmedRun run first.passes ∧ IsConfirmedRun run first'.passes

/-- Two days agree on what counts. -/
structure CountAlike (day day' : DayRecord) : Prop where
  date : day.date = day'.date
  departureTime : day.departureTime = day'.departureTime
  arrivalTime : day.arrivalTime = day'.arrivalTime
  departureStation : day.departureStation = day'.departureStation
  arrivalId : day.arrivalStation.id = day'.arrivalStation.id
  cancelled : day.cancelled = day'.cancelled
  journeys : JourneysCountAlike day.journeys day'.journeys

theorem JourneysCountAlike.prune_eq {journeys journeys' : List JourneyRecord}
    (h : JourneysCountAlike journeys journeys') :
    (journeys.take 1).map pruneJourney = (journeys'.take 1).map pruneJourney := by
  obtain ⟨first, more, first', more', run, rfl, rfl, htrain, hrun, hrun'⟩ := h
  have hprefix : confirmedPrefix first.passes = confirmedPrefix first'.passes :=
    (isConfirmedRun_iff.mp hrun).symm.trans (isConfirmedRun_iff.mp hrun')
  simp [pruneJourney, htrain, hprefix]

/-- Days that count alike are the same once they are pruned. -/
theorem CountAlike.pruneDay_eq {day day' : DayRecord} (h : CountAlike day day') :
    pruneDay day = pruneDay day' := by
  have hjourneys := h.journeys.prune_eq
  simp only [pruneDay, h.date, h.departureTime, h.arrivalTime, h.departureStation, h.arrivalId,
    h.cancelled, hjourneys]

/-- **Nothing else counts.** Two payloads whose first days count alike have the same outcome, the
same snapshot or the same error. The days behind the first one, the journeys behind the first one,
the passes from the first one on that is not confirmed, and the name of the station of the arrival
can be whatever they like. -/
theorem ofDays_of_countAlike {day day' : DayRecord} (h : CountAlike day day') (id : String)
    (later later' : List DayRecord) : ofDays id (day :: later) = ofDays id (day' :: later') := by
  have hprune : prune (day :: later) = prune (day' :: later') := by
    simp [prune, h.pruneDay_eq]
  rw [← ofDays_prune id (day :: later), hprune, ofDays_prune]

/-- A train that was last seen at its first point. It makes no difference that its second point is
cancelled in one payload and without a name in the other, nor what the rest of the payloads says,
and neither does it if the departure of both days cannot be read. -/
theorem ofDays_of_countAlike_nightTrain :
    let train : TrainRecord := ⟨"S5", "10512", "TREVIGLIO", some "V", none, none, none, none, none⟩
    let origin : PassRecord := ⟨"O", false, some ⟨some "S01800", some "VARESE"⟩⟩
    let last : PassRecord := ⟨"D", false, some ⟨some "S01900", some "TREVIGLIO"⟩⟩
    let cancelled : PassRecord := ⟨"F", true, some ⟨some "S01850", some "RHO"⟩⟩
    let nameless : PassRecord := ⟨"F", false, some ⟨some "S01850", none⟩⟩
    let day := { nightDay with journeys := [⟨train, [origin, cancelled, last]⟩] }
    let day' :=
      { nightDay with
        arrivalStation := ⟨"S01900", some "TREVIGLIO"⟩
        journeys := [⟨train, [origin, nameless]⟩, ⟨train, [last]⟩] }
    let torn := { day with departureTime := "23:4" }
    let torn' := { day' with departureTime := "23:4" }
    (CountAlike day day' ∧ ofDays "10512" [day] = ofDays "10512" [day', nightDay]) ∧
      CountAlike torn torn' ∧ ofDays "10512" [torn] = ofDays "10512" [torn', nightDay] := by
  intro train origin last cancelled nameless day day' torn torn'
  have hrun : IsConfirmedRun [origin] [origin, cancelled, last] := isConfirmedRun_iff.mpr rfl
  have hrun' : IsConfirmedRun [origin] [origin, nameless] := isConfirmedRun_iff.mpr rfl
  have hjourneys : JourneysCountAlike day.journeys day'.journeys :=
    ⟨_, _, _, _, [origin], rfl, rfl, rfl, hrun, hrun'⟩
  have hdays : CountAlike day day' := ⟨rfl, rfl, rfl, rfl, rfl, rfl, hjourneys⟩
  have htorn : CountAlike torn torn' := ⟨rfl, rfl, rfl, rfl, rfl, rfl, hjourneys⟩
  exact ⟨⟨hdays, ofDays_of_countAlike hdays _ _ _⟩, htorn, ofDays_of_countAlike htorn _ _ _⟩

end Journey
end RailWatch

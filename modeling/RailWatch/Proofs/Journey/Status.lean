import Mathlib.Data.List.TakeWhile
import RailWatch.Proofs.Journey.TextAndValue
import RailWatch.Proofs.Payload.Format
/-!
# RailWatch.Proofs.Journey.Status

The status of a train and the rest of its snapshot.

The status is worked out while the snapshot is made, from signals of which some are kept and some
are not. `StatusAgrees` says what a reader of the snapshot can rely on: the status is the one that
the position and the suppression in the snapshot call for, together with the cancelled mark of the
day and the raw status of the journey. The position in turn comes from the passes: it is the last
one of the longest run of confirmed passes at the start (`isConfirmedRun_iff`).
-/

namespace RailWatch

open Payload Json

/-! ### The passes that count -/

/-- The pass is confirmed: it is not cancelled, and the station is known with id and name. -/
def Payload.PassRecord.IsConfirmed (p : PassRecord) : Prop :=
  p.cancelled = false ∧ ∃ id name, p.actual = some ⟨some id, some name⟩

theorem Payload.PassRecord.confirmed?_eq_some_iff {p : PassRecord} {id name : String} :
    p.confirmed? = some (id, name) ↔
      p.cancelled = false ∧ p.actual = some ⟨some id, some name⟩ := by
  obtain ⟨code, cancelled, actual⟩ := p
  cases cancelled with
  | true => simp [PassRecord.confirmed?]
  | false => rcases actual with _ | ⟨_ | id', _ | name'⟩ <;> simp [PassRecord.confirmed?]

theorem Payload.PassRecord.isSome_confirmed?_iff {p : PassRecord} :
    p.confirmed?.isSome = true ↔ p.IsConfirmed := by
  simp [Option.isSome_iff_exists, PassRecord.confirmed?_eq_some_iff, PassRecord.IsConfirmed]

namespace Journey

/-- The longest run of confirmed passes at the start of these passes. -/
structure IsConfirmedRun (run passes : List PassRecord) : Prop where
  confirmed : ∀ p ∈ run, p.IsConfirmed
  longest : ∃ rest, passes = run ++ rest ∧ ∀ p, rest.head? = some p → ¬p.IsConfirmed

theorem isConfirmedRun_iff {run passes : List PassRecord} :
    IsConfirmedRun run passes ↔ run = confirmedPrefix passes := by
  constructor
  · rintro ⟨hrun, rest, rfl, hrest⟩
    have hall : ∀ p ∈ run, p.confirmed?.isSome = true := fun p hp =>
      PassRecord.isSome_confirmed?_iff.mpr (hrun p hp)
    rw [confirmedPrefix, List.takeWhile_append_of_pos hall]
    -- the run ends with the passes, or before one that is not confirmed
    cases rest with
    | nil => simp
    | cons p rest =>
        have hp : ¬p.confirmed?.isSome = true :=
          fun h => hrest p rfl (PassRecord.isSome_confirmed?_iff.mp h)
        simp [hp]
  · rintro rfl
    refine ⟨fun p hp => ?_, _, List.takeWhile_append_dropWhile.symm, fun p hp h => ?_⟩
    · unfold confirmedPrefix at hp
      have hsome := List.mem_takeWhile_imp hp
      exact PassRecord.isSome_confirmed?_iff.mp hsome
    · have hnot := List.head?_dropWhile_not (fun p : PassRecord => p.confirmed?.isSome) passes
      rw [hp] at hnot
      simp [PassRecord.isSome_confirmed?_iff.mpr h] at hnot

end Journey

/-! ### The position -/

/-- The code of the destination. -/
theorem StopRole.ofCode_eq_destination_iff {code : String} :
    StopRole.ofCode code = .destination ↔ code = "D" := by
  unfold StopRole.ofCode
  split
  · next horigin => simp [horigin]
  · split
    · next hdestination => simp [hdestination]
    · next hnot => simp [hnot]

/-- The position is of the role of a destination. -/
def Position.AtDestination (position : Option Position) : Prop :=
  ∃ p, position = some p ∧ p.role = .destination

/-- The train is confirmed at its destination. -/
def Train.AtDestination (t : Train) : Prop := Position.AtDestination t.position

namespace Journey

/-- A train is at its destination if that is the last pass of the run of confirmed ones. -/
theorem atDestination_position?_iff {passes : List PassRecord} :
    Position.AtDestination (position? passes) ↔
      ∃ run p, IsConfirmedRun (run ++ [p]) passes ∧ p.code = "D" := by
  constructor
  · rintro ⟨position, hposition, hrole⟩
    obtain ⟨p, hlast, hp⟩ := Option.bind_eq_some_iff.mp hposition
    obtain ⟨⟨id, name⟩, -, rfl⟩ := Option.map_eq_some_iff.mp hp
    obtain ⟨run, hrun⟩ := List.getLast?_eq_some_iff.mp hlast
    exact ⟨run, p, isConfirmedRun_iff.mpr hrun.symm, StopRole.ofCode_eq_destination_iff.mp hrole⟩
  · rintro ⟨run, p, hrun, hcode⟩
    obtain ⟨hcancelled, id, name, hactual⟩ := hrun.confirmed p (by simp)
    have hp : p.confirmed? = some (id, name) :=
      PassRecord.confirmed?_eq_some_iff.mpr ⟨hcancelled, hactual⟩
    refine ⟨⟨id, name, StopRole.ofCode p.code, none, none⟩, ?_,
      StopRole.ofCode_eq_destination_iff.mpr hcode⟩
    rw [position?, ← isConfirmedRun_iff.mp hrun, List.getLast?_concat, Option.bind_some, hp,
      Option.map_some]

end Journey

/-! ### The status -/

namespace Status

variable {position : Option Position} {suppression : Option Suppression} {cancelled : Bool}
  {raw : Option String} {departureId arrivalId : String}

theorem atDestination_iff :
    (position.any fun p => p.role = .destination) = true ↔ Position.AtDestination position := by
  simp [Option.any_eq_true, Position.AtDestination]

/-- Whoever has arrived is neither cancelled nor travelling. -/
theorem classify_of_atDestination (h : Position.AtDestination position) :
    classify position suppression cancelled raw departureId arrivalId = .idle := by
  rw [classify, if_pos (atDestination_iff.mpr h)]

theorem classify_of_not_atDestination (h : ¬Position.AtDestination position) :
    classify position suppression cancelled raw departureId arrivalId =
      if (suppression.any fun s => s.covers departureId arrivalId) = true ∨ cancelled = true then
        .cancelled
      else if raw = some runningCode then .travelling
      else .idle := by
  rw [classify, if_neg (fun harrived => h (atDestination_iff.mp harrived))]
  by_cases hsuppressed : (suppression.any fun s => s.covers departureId arrivalId) = true
  · rw [if_pos hsuppressed, if_pos (.inl hsuppressed)]
  · cases cancelled <;> simp [hsuppressed]

theorem classify_eq_cancelled_iff :
    classify position suppression cancelled raw departureId arrivalId = .cancelled ↔
      ¬Position.AtDestination position ∧
        ((suppression.any fun s => s.covers departureId arrivalId) = true ∨ cancelled = true) := by
  by_cases h : Position.AtDestination position
  · simp [classify_of_atDestination h, h]
  · rw [classify_of_not_atDestination h, and_iff_right h]
    split
    · next hcancelled => simp [hcancelled]
    · next hnot =>
        simp only [hnot, iff_false]
        split <;> simp

theorem classify_eq_travelling_iff :
    classify position suppression cancelled raw departureId arrivalId = .travelling ↔
      ¬Position.AtDestination position ∧
        (suppression.any fun s => s.covers departureId arrivalId) = false ∧ cancelled = false ∧
          raw = some "V" := by
  by_cases h : Position.AtDestination position
  · simp [classify_of_atDestination h, h]
  · rw [classify_of_not_atDestination h, and_iff_right h, ← and_assoc, ← Bool.not_eq_true,
      ← Bool.not_eq_true, ← not_or]
    split
    · next hcancelled => simp [hcancelled]
    · next hnot =>
        rw [and_iff_right hnot]
        exact ite_eq_left_iff.trans (by simp [runningCode])

end Status

namespace Journey

/-- The status of a train agrees with the rest of its snapshot, and with the day and the journey
that it was made from. -/
structure StatusAgrees (t : Train) (day : DayRecord) (journey : JourneyRecord) : Prop where
  cancelled : t.status = .cancelled ↔
    ¬t.AtDestination ∧ (t.isFullySuppressed = true ∨ day.cancelled = true)
  travelling : t.status = .travelling ↔
    ¬t.AtDestination ∧ t.isFullySuppressed = false ∧ day.cancelled = false ∧
      journey.train.status = some "V"
  atDestination : t.AtDestination ↔
    ∃ run p, IsConfirmedRun (run ++ [p]) journey.passes ∧ p.code = "D"
  arrived : t.AtDestination → t.status = .idle

/-- The first of these days, and the first journey of it. -/
def IsFirst (days : List DayRecord) (day : DayRecord) (journey : JourneyRecord) : Prop :=
  days.head? = some day ∧ day.journeys.head? = some journey

theorem statusAgrees_of_ofDays {id : String} {days : List DayRecord} {t : Train}
    (h : ofDays id days = .ok (.found t)) :
    ∃ day journey, IsFirst days day journey ∧ StatusAgrees t day journey := by
  obtain ⟨day, rest, rfl, hday⟩ := ofDays_eq_found_iff.mp h
  obtain ⟨journey, more, _, _, _, _, hjourneys, -, -, -, rfl⟩ := ofDay_eq_ok_iff.mp hday
  refine ⟨day, journey, ⟨rfl, by rw [hjourneys, List.head?_cons]⟩, ?_⟩
  exact
    { cancelled := Status.classify_eq_cancelled_iff
      travelling := Status.classify_eq_travelling_iff
      atDestination := atDestination_position?_iff
      arrived := Status.classify_of_atDestination }

/-- **The status agrees with the rest of the snapshot** of every train that is found in a payload,
be it a value or a text. -/
theorem found_status_agrees (id : String) (t : Train) :
    (∀ v, ofValue id v = .ok (.found t) →
      ∃ days day journey, IsPayload v days ∧ IsFirst days day journey ∧
        StatusAgrees t day journey) ∧
      ∀ text, ofText id text = .ok (.found t) →
        ∃ days day journey, readDays text.toList = .ok days ∧ IsFirst days day journey ∧
          StatusAgrees t day journey := by
  constructor
  · intro v h
    rw [ofValue] at h
    split at h
    · cases h
    · next days hdays =>
        obtain ⟨day, journey, hfirst, hagrees⟩ := statusAgrees_of_ofDays h
        exact ⟨days, day, journey, decodeDays_eq_ok_iff.mp hdays, hfirst, hagrees⟩
  · intro text h
    rw [ofText] at h
    split at h
    · cases h
    · next days hdays =>
        obtain ⟨day, journey, hfirst, hagrees⟩ := statusAgrees_of_ofDays h
        exact ⟨days, day, journey, hdays, hfirst, hagrees⟩

/-- A train that is cancelled, suppressed over the whole route, reported as running and confirmed at
its destination: it has arrived. The train of `nightText` is under way. -/
theorem found_status_agrees_arrived :
    let v := Value.list [.list [.text "20240315", .text "23:40:00", .text "00:25:00",
      .list [.text "S01800", .text "VARESE"], .list [.text "S01900", .null], .flag true,
      .list [.list
        [.list [.text "S5", .text "10512", .text "TREVIGLIO", .text "V", .null, .text "VARESE",
          .text "S01800", .text "TREVIGLIO", .text "S01900"],
        .list [.list [.text "D", .flag false, .list [.text "S01900", .text "TREVIGLIO"]]]]]]]
    let t :=
      { nightTrain with
        status := .idle
        suppression := some ⟨"S01800", "VARESE", "S01900", "TREVIGLIO"⟩
        position := some ⟨"S01900", "TREVIGLIO", .destination, none, none⟩ }
    (ofValue "10512" v = .ok (.found t) ∧
      ∃ days day journey, IsPayload v days ∧ IsFirst days day journey ∧
        StatusAgrees t day journey) ∧
      ofText "10512" nightText = .ok (.found nightTrain) ∧
        ∃ days day journey, readDays nightText.toList = .ok days ∧ IsFirst days day journey ∧
          StatusAgrees nightTrain day journey := by
  intro v t
  have hvalue : ofValue "10512" v = .ok (.found t) := by decide +kernel
  have htext : ofText "10512" nightText = .ok (.found nightTrain) := by decide +kernel
  exact ⟨⟨hvalue, (found_status_agrees "10512" t).1 v hvalue⟩, htext,
    (found_status_agrees "10512" nightTrain).2 nightText htext⟩

end Journey
end RailWatch

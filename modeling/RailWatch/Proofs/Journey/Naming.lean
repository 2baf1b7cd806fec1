import RailWatch.Proofs.Journey.Schedule
import RailWatch.Proofs.Text.LetterCase
/-!
# RailWatch.Proofs.Journey.Naming

Payloads whose names are already in the form in which they are shown.

The names of a day that are shown are the one of the station of the departure and the directions of
its journeys (`shownNames`). Only how they are shown counts: names that are shown alike give the same
snapshot (`ofDays_mapNames`). A name that is shown and then sent again is shown alike, unless it
started with a joined character, a ligature such as `ﬁ` or a sharp s.
-/

namespace RailWatch

open Payload Text

namespace Journey

/-! ### The names of a day -/

/-- The names that are shown: where the departure is, and where each journey goes. -/
def shownNames (day : DayRecord) : List String :=
  day.departureStation.name.toList ++ day.journeys.map fun journey => journey.train.direction

/-- A journey with another direction. -/
def mapDirection (f : String → String) (journey : JourneyRecord) : JourneyRecord :=
  { journey with train := { journey.train with direction := f journey.train.direction } }

/-- A day with other names in place of those that are shown. -/
def mapNames (f : String → String) (day : DayRecord) : DayRecord :=
  { day with
    departureStation := { day.departureStation with name := day.departureStation.name.map f }
    journeys := day.journeys.map (mapDirection f) }

variable {f : String → String} {day : DayRecord}

theorem shownNames_mapNames : shownNames (mapNames f day) = (shownNames day).map f := by
  simp [shownNames, mapNames, mapDirection, Option.toList_map]

/-- Names that are shown alike give the same snapshot. -/
theorem ofDay_mapNames (hf : ∀ name ∈ shownNames day, capitalize (f name) = capitalize name)
    (id : String) : ofDay id (mapNames f day) = ofDay id day := by
  rcases hjourneys : day.journeys with _ | ⟨journey, more⟩
  · simp [ofDay, mapNames, hjourneys]
  · have hdirection : capitalize (f journey.train.direction) = capitalize journey.train.direction :=
      hf _ (by simp [shownNames, hjourneys])
    cases hname : day.departureStation.name with
    | none => simp [ofDay, mapNames, mapDirection, hjourneys, hname]
    | some name =>
        have hdeparture : capitalize (f name) = capitalize name :=
          hf _ (by simp [shownNames, hname])
        simp [ofDay, mapNames, mapDirection, hjourneys, hname, suppression?, displayName,
          hdirection, hdeparture]

/-- Names that are shown alike give the same outcome, in whatever days they are. -/
theorem ofDays_mapNames {days : List DayRecord}
    (hf : ∀ day ∈ days, ∀ name ∈ shownNames day, capitalize (f name) = capitalize name)
    (id : String) : ofDays id (days.map (mapNames f)) = ofDays id days := by
  cases days with
  | nil => rfl
  | cons day later =>
      show (ofDay id (mapNames f day)).map Outcome.found = (ofDay id day).map Outcome.found
      rw [ofDay_mapNames (hf day List.mem_cons_self)]

/-! ### Names in the form in which they are shown -/

/-- **Shown names are final, but for joined letters.** A name that has been put into the form in which
names are shown is in lower case behind its first character, and stays as it is when it is shown
again, unless it started with a joined character. A payload with the shown names in it gives the same
outcome as the one before if no name starts so, and in any case from the second time on. -/
theorem shown_names_settle (id : String) (days : List DayRecord) :
    (∀ name, (capitalize (capitalize name) = capitalize name ↔ ¬StartsJoined name) ∧
        (lower (capitalize name).toList.tail = (capitalize name).toList.tail ↔
          ¬StartsJoined name)) ∧
      ((∀ day ∈ days, ∀ name ∈ shownNames day, ¬StartsJoined name) →
        ofDays id (days.map (mapNames capitalize)) = ofDays id days) ∧
      ofDays id ((days.map (mapNames capitalize)).map (mapNames capitalize)) =
        ofDays id (days.map (mapNames capitalize)) := by
  refine ⟨fun name => ⟨capitalize_capitalize_iff name, lower_tail_capitalize_iff name⟩,
    fun hnames => ofDays_mapNames (fun day hday name hname => ?_) id,
    ofDays_mapNames (fun day hday name hname => ?_) id⟩
  · exact (capitalize_capitalize_iff name).mpr (hnames day hday name hname)
  · -- each name has been shown once
    obtain ⟨before, -, rfl⟩ := List.mem_map.mp hday
    rw [shownNames_mapNames] at hname
    obtain ⟨first, -, rfl⟩ := List.mem_map.mp hname
    exact (capitalize_capitalize_iff _).mpr (not_startsJoined_capitalize first)

/-- A train from a station whose name ends in a sigma: the payload as it comes, and with the names as
they are shown. -/
theorem shown_names_settle_finalSigma :
    let day := { nightDay with departureStation := ⟨"S01800", some "ΠΆΤΡΑΣ"⟩ }
    let shown :=
      { day with
        departureStation := ⟨"S01800", some "Πάτρας"⟩
        journeys :=
          [⟨⟨"S5", "10512", "Treviglio", some "V", none, none, none, none, none⟩, []⟩] }
    (∀ name ∈ shownNames day, ¬StartsJoined name) ∧ mapNames capitalize day = shown ∧
      ofDays "10512" [shown] = ofDays "10512" [day] := by
  intro day shown
  have hnames : ∀ name ∈ shownNames day, ¬StartsJoined name := by decide +kernel
  have hstation : capitalize "ΠΆΤΡΑΣ" = "Πάτρας" := by decide +kernel
  have hdirection : capitalize "TREVIGLIO" = "Treviglio" := by decide +kernel
  have hshown : mapNames capitalize day = shown := by
    simp [day, shown, mapNames, mapDirection, nightDay, hstation, hdirection]
  refine ⟨hnames, hshown, ?_⟩
  rw [← hshown]
  exact (shown_names_settle "10512" [day]).2.1 (by simpa using hnames)

/-- A ligature is shown as two capitals, of which one is left when the name is shown again. -/
theorem ligature_shown_as_capitals :
    capitalize "ﬁrenze" = "FIrenze" ∧ capitalize (capitalize "ﬁrenze") = "Firenze" ∧
      lower (capitalize "ﬁrenze").toList.tail ≠ (capitalize "ﬁrenze").toList.tail := by
  decide +kernel

end Journey
end RailWatch

import RailWatch.Proofs.Journey.TextAndValue
import RailWatch.Proofs.Payload.Respelling
/-!
# RailWatch.Proofs.Journey.Acceptance

Which values are accepted as a payload, and that it does not matter how they are written.

A value has the shape of a payload exactly if it is a payload of some days. All of it counts here,
the later days and journeys and the passes too, though only the first ones are used: the train is
made from the days afterwards, and what may go wrong then is no matter of shape any more
(`isShape_of_ofDays`).
-/

namespace RailWatch.Journey

open Json Payload

/-- A payload goes on as the days that it lists. -/
theorem ofValue_eq_ofDays {v : Value} {days : List DayRecord} (h : IsPayload v days) (id : String) :
    ofValue id v = ofDays id days := by
  rw [ofValue, decodeDays_eq_ok_iff.mpr h]

/-- What is no payload is an error of shape. -/
theorem exists_isShape_of_not_isPayload {v : Value} (h : ¬∃ days, IsPayload v days) (id : String) :
    ∃ e, ofValue id v = .error e ∧ e.isShape = true := by
  cases hdecode : decodeDays v with
  | ok days => exact absurd ⟨days, decodeDays_eq_ok_iff.mp hdecode⟩ h
  | error m => exact ⟨.misshapen m, by rw [ofValue, hdecode], rfl⟩

/-- **Exactly the payloads are accepted.** For any train and any value the error is not one of shape
if and only if the value is a payload of some days; the outcome is that of these days, and the same
for every other way to write the payload. -/
theorem ofValue_accepts_payloads (id : String) (v : Value) :
    ((∀ e, ofValue id v = .error e → e.isShape = false) ↔ ∃ days, IsPayload v days) ∧
      (∀ days, IsPayload v days → ofValue id v = ofDays id days) ∧
      ∀ w, Respelled payloadShape v w → (∃ days, IsPayload v days) →
        ofValue id w = ofValue id v := by
  refine ⟨⟨fun haccepted => ?_, ?_⟩, fun days h => ofValue_eq_ofDays h id, ?_⟩
  · by_contra hnone
    obtain ⟨e, he, hshape⟩ := exists_isShape_of_not_isPayload hnone id
    rw [haccepted e he] at hshape
    cases hshape
  · rintro ⟨days, h⟩ e he
    rw [ofValue_eq_ofDays h id] at he
    exact isShape_of_ofDays he
  · -- written in another way it is a payload of the same days
    rintro w hw ⟨days, h⟩
    rw [ofValue_eq_ofDays h id, ofValue_eq_ofDays ((hw.isPayload_iff days).mp h) id]

/-- The fields of `nightDay` with this value for its last station. -/
def nightFields (station : Value) : List Value :=
  [.text "20240315", .text "23:40:00", .text "00:25:00",
    .list [.text "S01800", .text "VARESE"], station, .flag false,
    .list [.list [.list [.text "S5", .text "10512", .text "TREVIGLIO", .text "V"], .list []]]]

/-- The payload of `nightDay`, as lists and with objects in place of two of them: one has a key that
no field has, and the other lacks what is null in the list. -/
theorem ofValue_accepts_payloads_nightFields :
    let v := Value.list [.list (nightFields (.list [.text "S01900", .null]))]
    let w := Value.list [.object (("note", .flag true) ::
      ["date", "dep_time", "arr_time", "dep_station", "arr_station", "cancelled",
        "journey_list"].zip (nightFields (.object [("station_id", .text "S01900")])))]
    IsPayload v [nightDay] ∧ Respelled payloadShape v w ∧
      ofValue "10512" w = .ok (.found nightTrain) := by
  intro v w
  have hpayload : IsPayload v [nightDay] := decodeDays_eq_ok_iff.mp (by decide +kernel)
  have hstation : Respelled StationRecord.shape (.list [.text "S01900", .null])
      (.object [("station_id", .text "S01900")]) :=
    .trans (.listed (by decide) (by decide))
      (.null [("station_id", .text "S01900")] [] (.tail _ _ _ (.head _ _ _ _)) (by decide)
        (by decide))
  have hfields : Respelled DayRecord.shape (.list (nightFields (.list [.text "S01900", .null])))
      (.object (["date", "dep_time", "arr_time", "dep_station", "arr_station", "cancelled",
        "journey_list"].zip (nightFields (.object [("station_id", .text "S01900")])))) :=
    .trans (.listed (by decide) (by decide))
      (.member (["date", "dep_time", "arr_time", "dep_station"].zip (nightFields .null))
        (["cancelled", "journey_list"].zip ((nightFields .null).drop 5))
        (.tail _ _ _ (.tail _ _ _ (.tail _ _ _ (.tail _ _ _ (.head _ _ _ _))))) hstation)
  have hw : Respelled payloadShape v w :=
    .item [] [] (hfields.trans (.symm (.unknown [] _ (by decide))))
  obtain ⟨-, hdays, hsame⟩ := ofValue_accepts_payloads "10512" v
  refine ⟨hpayload, hw, ?_⟩
  rw [hsame w hw ⟨_, hpayload⟩, hdays _ hpayload]
  decide

end RailWatch.Journey

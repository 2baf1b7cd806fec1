import RailWatch.Proofs.Journey.Schedule
import RailWatch.Proofs.Json.Recognition
import RailWatch.Proofs.Payload.Agreement
/-!
# RailWatch.Proofs.Journey.TextAndValue

A payload says the same about a train as a text and as the JSON value of that text.

Both are made into days first, and all that comes after is shared. So it is enough that the days
are the same, or that there are none on both sides; the two errors are errors about the shape of
the payload then, though their words differ.
-/

namespace RailWatch.Journey

open Json Payload

theorem isShape_of_ofDay {id : String} {day : DayRecord} {e : PayloadError}
    (h : ofDay id day = .error e) : e.isShape = false := by
  unfold ofDay at h
  split at h
  · cases h
    rfl
  · split at h
    · cases h
      rfl
    · split at h
      · cases h
        rfl
      · split at h
        · cases h
          rfl
        · cases h

/-- Once there are days, nothing is wrong with the shape of the payload. -/
theorem isShape_of_ofDays {id : String} {days : List DayRecord} {e : PayloadError}
    (h : ofDays id days = .error e) : e.isShape = false := by
  cases days with
  | nil => cases h
  | cons day rest =>
      rw [ofDays] at h
      cases hday : ofDay id day with
      | error e' =>
          rw [hday] at h
          cases h
          exact isShape_of_ofDay hday
      | ok train =>
          rw [hday] at h
          cases h

/-- The days that a text lists are those that its value lists. -/
theorem readDays_agrees {text : List Char} {v : Value} (h : Denotes text v) (hv : v.Distinct) :
    (readDays text).toOption = (decodeDays v).toOption := by
  have hread := payloadShape.read_agrees h hv
  unfold readDays decodeDays
  refine (toOption_map _ _).trans (Eq.trans ?_ (toOption_map _ _).symm)
  exact congrArg (Option.map (List.map DayRecord.ofDatum)) hread

/-- **Text and value agree** on every train and every JSON text in which no object repeats a key.
Either both give the same outcome, or the shape of the payload is wrong for both, or both lack the
same needed field or have the same wrong time. -/
theorem ofText_agrees_ofValue (id : String) {text : String} {v : Value}
    (h : Denotes text.toList v) (hv : v.Distinct) :
    (∃ outcome, ofText id text = .ok outcome ∧ ofValue id v = .ok outcome) ∨
      (∃ e e', ofText id text = .error e ∧ ofValue id v = .error e' ∧
        e.isShape = true ∧ e'.isShape = true) ∨
      ∃ e, ofText id text = .error e ∧ ofValue id v = .error e ∧ e.isShape = false := by
  have hdays := readDays_agrees h hv
  unfold ofText ofValue
  cases hvalue : decodeDays v with
  | error m =>
      -- no days on either side, though for reasons that need not be the same
      rw [hvalue] at hdays
      obtain ⟨fault, hfault⟩ := toOption_eq_none_iff.mp hdays
      rw [hfault]
      exact .inr (.inl ⟨_, _, rfl, rfl, rfl, rfl⟩)
  | ok days =>
      rw [hvalue] at hdays
      rw [toOption_eq_some_iff.mp hdays]
      simp only
      cases hresult : ofDays id days with
      | ok outcome => exact .inl ⟨outcome, rfl, rfl⟩
      | error e => exact .inr (.inr ⟨e, rfl, rfl, isShape_of_ofDays hresult⟩)

/-- A payload text for the train of `nightDay`: lists in place of most objects, and an object with
its keys in another order, one of them written with an escape and one that no field has. -/
def nightText : String :=
  "[[\"20240315\",\"23:40:00\",\"00:25:00\", \x7b\"station_ori_name\":\"VARESE\",\"x\":[\x7b\x7d]," ++
    "\"\\u0073tation_id\":\"S01800\"\x7d,[\"S01900\",null],false,[[[\"S5\",\"10512\",\"TREVIGLIO\",\"V\"],[]]]]]"

/-- Text and value of `nightText` give the same train. -/
theorem ofText_agrees_ofValue_nightText :
    ∃ v, Denotes nightText.toList v ∧ v.Distinct ∧
      ofText "10512" nightText = .ok (.found nightTrain) ∧
      ofValue "10512" v = .ok (.found nightTrain) := by
  have hread : (match Value.read nightText.toList with
      | .ok v => decide v.Distinct
      | .error _ => false) = true := by decide +kernel
  have htext : ofText "10512" nightText = .ok (.found nightTrain) := by decide +kernel
  split at hread
  · next v hv =>
      have h : Denotes nightText.toList v := Value.read_eq_ok_iff.mp hv
      have hdistinct : v.Distinct := of_decide_eq_true hread
      refine ⟨v, h, hdistinct, htext, ?_⟩
      rcases ofText_agrees_ofValue "10512" h hdistinct with
        ⟨outcome, hok, hvalue⟩ | ⟨e, _, herror, -⟩ | ⟨e, herror, -⟩
      · rw [hvalue, ← hok, htext]
      · rw [htext] at herror
        cases herror
      · rw [htext] at herror
        cases herror
  · cases hread

end RailWatch.Journey

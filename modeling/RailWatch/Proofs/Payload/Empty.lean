import RailWatch.Proofs.Journey.TextAndValue
import RailWatch.Proofs.Outcome
/-!
# RailWatch.Proofs.Payload.Empty

The payload that lists no days.

A train that does not run has a payload without days, and `readDays_eq_nil_iff` says which texts
these are: the JSON texts of the empty list, two brackets with white space around and between them.
A reader that has read an element never drops it, so without an element in the end there was none in
the text.
-/

namespace RailWatch.Payload

open Json

/-- The elements that were read before stay in the list. -/
theorem length_le_of_scanItems {α : Type} {item : Nat → Scan α} {done xs : List α} {fuel : Nat}
    {first : Bool} {s rest : List Char} (h : scanItems item done fuel first s = .ok (xs, rest)) :
    done.length ≤ xs.length := by
  induction fuel generalizing done first s with
  | zero => cases h
  | succ fuel ih =>
      rw [scanItems] at h
      split at h
      · cases h
      · obtain ⟨_, -, heq⟩ := exists_of_map_eq_ok h
        obtain ⟨rfl, -⟩ := Prod.mk.inj heq
        simp
      · split at h
        · cases h
        · have hlength := ih h
          simp only [List.length_cons] at hlength
          omega

/-- Without an element a list is two brackets, with white space between them. -/
theorem end_of_scanItems_nil {α : Type} {item : Nat → Scan α} {fuel : Nat} {first : Bool}
    {s rest : List Char} (h : scanItems item [] fuel first s = .ok ([], rest)) :
    ∃ w, Blank w ∧ s = w ++ ']' :: rest := by
  cases fuel with
  | zero => cases h
  | succ fuel =>
      rw [scanItems] at h
      split at h
      · cases h
      · obtain ⟨_, hclose, heq⟩ := exists_of_map_eq_ok h
        cases heq
        exact end_of_closeList hclose
      · split at h
        · cases h
        · -- an element was read, and it would be in the list
          have hlength := length_le_of_scanItems h
          simp at hlength

/-- A list of no elements that is read in front of a text. -/
theorem brackets_of_scan_nil {item : Shape} {fuel : Nat} {s rest : List Char}
    (h : (Shape.list item).scan fuel s = .ok ([], rest)) :
    ∃ w, Blank w ∧ skipSpace s = '[' :: (w ++ ']' :: rest) := by
  rw [Shape.scan] at h
  rcases match_list (skipSpace s) (scanItems item.scan [] fuel true)
      (fun s => .error (wrongKind (Shape.list item).describe fuel s)) with ⟨r, hskip⟩ | hno
  · rw [hskip] at h ⊢
    obtain ⟨w, hw, rfl⟩ := end_of_scanItems_nil h
    exact ⟨w, hw, rfl⟩
  · cases h.symm.trans hno

theorem denotes_nil_of_read {item : Shape} {text : List Char}
    (h : (Shape.list item).read text = .ok []) : Denotes text (.list []) := by
  obtain ⟨w, hw, hs⟩ := exists_blank text
  obtain ⟨⟨data, rest⟩, hscan, h⟩ := bind_eq_ok_iff.mp h
  obtain ⟨_, hclose, h⟩ := bind_eq_ok_iff.mp h
  obtain rfl := Except.ok.inj h
  obtain ⟨w', hw', hskip⟩ := brackets_of_scan_nil hscan
  refine ⟨w, '[' :: (w' ++ [']']), rest, hw, .list (.listEnd hw'), blank_of_closeText hclose, ?_⟩
  rw [hs, hskip]
  simp

/-- The only texts of a payload without days are those of the empty list. -/
theorem readDays_eq_nil_iff {text : List Char} :
    readDays text = .ok [] ↔ Denotes text (.list []) := by
  constructor
  · intro h
    obtain ⟨data, hread, hdata⟩ := exists_of_map_eq_ok h
    obtain rfl : data = [] := List.map_eq_nil_iff.mp hdata
    exact denotes_nil_of_read hread
  · intro h
    exact toOption_eq_some_iff.mp (Journey.readDays_agrees h (by decide))

end RailWatch.Payload

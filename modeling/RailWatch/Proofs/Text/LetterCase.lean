import RailWatch.Proofs.Text.CaseTable
/-!
# RailWatch.Proofs.Text.LetterCase

Names that are put into the form in which they are shown a second time.

Lower case is final: a text is its own lower case form exactly if each of its characters is
(`lowerAfter_eq_self_iff`), and that holds of every lower case form. So of a shown name only what the
upper case form of its first character brings can change. It does not change, unless that character is
a joined one (`capitalize_capitalize_iff`), and a shown name does not start with one
(`not_startsJoined_capitalize`).
-/

namespace RailWatch.Text

variable {c u d : Char} {s t before : List Char}

/-! ### Lower case is final -/

/-- A capital sigma has two lower case forms. -/
theorem lowerSigma_cases (before after : List Char) :
    lowerSigma before after = Char.ofNat 0x3C2 ∨ lowerSigma before after = Char.ofNat 0x3C3 := by
  unfold lowerSigma
  split
  · exact .inl rfl
  · exact .inr rfl

theorem lowerChar_capitalSigma : lowerChar capitalSigma = [Char.ofNat 0x3C3] := by
  decide +kernel

theorem isSettled_lowerSigma (before after : List Char) : IsSettled (lowerSigma before after) := by
  have hfinal : lowerChar (Char.ofNat 0x3C2) = [Char.ofNat 0x3C2] := by decide +kernel
  rcases lowerSigma_cases before after with h | h <;> rw [h]
  · exact hfinal
  · exact isSettled_of_mem (c := capitalSigma) (by rw [lowerChar_capitalSigma]; simp)

theorem IsSettled.ne_capitalSigma (h : IsSettled c) : c ≠ capitalSigma := by
  rintro rfl
  rw [IsSettled, lowerChar_capitalSigma] at h
  exact absurd h (by decide)

/-- What stands in a lower case form for one character. -/
def lowerAt (before : List Char) (c : Char) (after : List Char) : List Char :=
  if c = capitalSigma then [lowerSigma before after] else lowerChar c

theorem lowerAfter_cons (before : List Char) (c : Char) (after : List Char) :
    lowerAfter before (c :: after) = lowerAt before c after ++ lowerAfter (c :: before) after := rfl

theorem lowerAt_of_settled (h : IsSettled c) (before after : List Char) :
    lowerAt before c after = [c] := by
  rw [lowerAt, if_neg h.ne_capitalSigma]
  exact h

theorem isSettled_of_mem_lowerAt {after : List Char} (h : d ∈ lowerAt before c after) :
    IsSettled d := by
  unfold lowerAt at h
  split at h
  · rw [List.mem_singleton.mp h]
    exact isSettled_lowerSigma before after
  · exact isSettled_of_mem h

/-- All characters of a lower case form are settled. -/
theorem isSettled_of_mem_lowerAfter (h : d ∈ lowerAfter before s) : IsSettled d := by
  induction s generalizing before with
  | nil => cases h
  | cons c after ih =>
      rw [lowerAfter_cons, List.mem_append] at h
      rcases h with h | h
      · exact isSettled_of_mem_lowerAt h
      · exact ih h

/-- A text of settled characters is its own lower case form, whatever stands before it. -/
theorem lowerAfter_eq_self (h : ∀ c ∈ s, IsSettled c) (before : List Char) :
    lowerAfter before s = s := by
  induction s generalizing before with
  | nil => rfl
  | cons c after ih =>
      obtain ⟨hc, hafter⟩ := List.forall_mem_cons.mp h
      rw [lowerAfter_cons, lowerAt_of_settled hc, ih hafter]
      rfl

/-- A text is its own lower case form exactly if all of its characters are settled. -/
theorem lowerAfter_eq_self_iff : lowerAfter before s = s ↔ ∀ c ∈ s, IsSettled c :=
  ⟨fun h _ hc => isSettled_of_mem_lowerAfter (h ▸ hc), fun h => lowerAfter_eq_self h before⟩

/-! ### The first character -/

/-- A first character with one lower case form has it in a text too. -/
theorem lower_cons (hlower : lowerChar u = [d]) (t : List Char) :
    lower (u :: t) = d :: lowerAfter [u] t := by
  have hat : lowerAt [] u t = [d] := by
    unfold lowerAt
    split
    · next hsigma =>
        -- at the start of a text a sigma is not final
        rw [hsigma, lowerChar_capitalSigma] at hlower
        rw [← hlower, lowerSigma]
        simp [meetsCased]
    · exact hlower
  rw [lower, lowerAfter_cons, hat]
  rfl

/-- The name starts with a character that is joined, once it is in lower case. -/
def StartsJoined (s : String) : Prop := ∃ c ∈ (lower s.toList).head?, IsJoined c

instance : DecidablePred StartsJoined := fun s =>
  decidable_of_iff ((lower s.toList).head?.any fun c => decide (IsJoined c))
    (by simp [StartsJoined, Option.any_eq_true])

/-- A shown name is empty, or its first character comes back from its lower case form, and the rest of
it is settled exactly if the name did not start with a joined character. -/
theorem toList_capitalize_cases (s : String) :
    (capitalize s).toList = [] ∧ ¬StartsJoined s ∨
      ∃ u t d, (capitalize s).toList = u :: t ∧ lowerChar u = [d] ∧ upperChar d = [u] ∧
        ((∀ c ∈ t, IsSettled c) ↔ ¬StartsJoined s) := by
  rw [capitalize, String.toList_ofList, StartsJoined]
  cases hlower : lower s.toList with
  | nil => exact .inl ⟨rfl, by simp⟩
  | cons c rest =>
      have hsettled : ∀ d ∈ c :: rest, IsSettled d := by
        rw [← hlower]
        exact fun d => isSettled_of_mem_lowerAfter
      obtain ⟨hc, hrest⟩ := List.forall_mem_cons.mp hsettled
      obtain ⟨u, us, d, hupper, hd, hback⟩ := exists_upperChar hc
      have htail : (∀ d ∈ us, IsSettled d) ↔ ¬IsJoined c := by
        rw [← forall_mem_tail_upperChar_iff, hupper, List.tail_cons]
      refine .inr ⟨u, us ++ rest, d, by rw [upperFirst, hupper]; rfl, hd, hback, ?_⟩
      rw [List.forall_mem_append, and_iff_left hrest, htail]
      simp

/-! ### Shown again -/

/-- What is behind the first character of a shown name is in lower case, unless the name started with
a joined character. -/
theorem lower_tail_capitalize_iff (s : String) :
    lower (capitalize s).toList.tail = (capitalize s).toList.tail ↔ ¬StartsJoined s := by
  rw [lower, lowerAfter_eq_self_iff]
  rcases toList_capitalize_cases s with ⟨hnil, hjoined⟩ | ⟨u, t, d, hcons, -, -, hjoined⟩
  · simp [hnil, hjoined]
  · rw [hcons, List.tail_cons, hjoined]

/-- A shown name is shown unchanged, unless it started with a joined character. -/
theorem capitalize_capitalize_iff (s : String) :
    capitalize (capitalize s) = capitalize s ↔ ¬StartsJoined s := by
  rw [← String.toList_inj, capitalize, String.toList_ofList]
  rcases toList_capitalize_cases s with ⟨hnil, hjoined⟩ | ⟨u, t, d, hcons, hd, hback, hjoined⟩
  · simp only [hnil, hjoined, not_false_eq_true, iff_true]
    rfl
  · have hfirst : upperFirst (lower (u :: t)) = u :: lowerAfter [u] t := by
      rw [lower_cons hd, upperFirst, hback]
      rfl
    rw [hcons, hfirst, ← hjoined, ← @lowerAfter_eq_self_iff t [u]]
    simp

/-- A shown name does not start with a joined character. -/
theorem not_startsJoined_capitalize (s : String) : ¬StartsJoined (capitalize s) := by
  rw [StartsJoined]
  rcases toList_capitalize_cases s with ⟨hnil, -⟩ | ⟨u, t, d, hcons, hd, hback, -⟩
  · rw [hnil]
    simp [lower, lowerAfter]
  · have hone : ¬IsJoined d := by
      rw [← forall_mem_tail_upperChar_iff, hback]
      simp
    rw [hcons, lower_cons hd]
    simpa using hone

end RailWatch.Text

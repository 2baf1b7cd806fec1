import Mathlib.Data.List.Chain
import RailWatch.Proofs.Text.Utf8
import RailWatch.Text.LetterCase
/-!
# RailWatch.Proofs.Text.CaseTable

What the tables of letter case say about each other.

The runs of a table follow each other (`IsTable`), so a code point is in one run at most, the `near`
one. A run is checked as a whole, by its ends: its forms are all in another run (`lands`), or in none
of a table (`avoids`). With that the facts about all characters are few: a lower case form is its own
lower case form (`lowerForm_settled`); an upper case form starts with a character that comes back
from its lower case form (`exists_upperForm`), and only for the characters of `joinedRanges` it has a
further one that does not keep in lower case (`exists_mem_tail_upperForm_iff`).
-/

namespace RailWatch.Text

/-! ### Runs -/

namespace CaseRange

/-- The form of a code point of the run. -/
def form (r : CaseRange) (n : Nat) : Nat := (n + r.delta).toNat

/-- The form of the first code point. -/
def low (r : CaseRange) : Nat := r.form r.first

/-- The form of the last code point. -/
def high (r : CaseRange) : Nat := r.form r.last

/-- The forms of the run are characters. -/
def isSound (r : CaseRange) : Bool :=
  0 ≤ r.first + r.delta && (r.high < 0xD800 || 0xDFFF < r.low && r.high < 0x110000)

/-- The forms of the run are all in another run. -/
def lands (r q : CaseRange) : Bool :=
  q.first ≤ r.low && r.high ≤ q.last && (r.low - q.first) % q.step = 0 &&
    (r.step % q.step = 0 || r.first = r.last)

/-- The forms of the run are where another run has its gaps. -/
def interleaves (r q : CaseRange) : Bool :=
  q.step = 2 && (r.step = 2 || r.first = r.last) && (r.low + q.first) % 2 = 1

/-- The forms of the run are in none of these runs, which follow each other. -/
def avoids (r : CaseRange) : List CaseRange → Bool
  | [] => true
  | q :: rest =>
    if q.last < r.low then r.avoids rest
    else r.high < q.first || r.interleaves q && r.avoids rest

/-- The run, with its forms moved on as those of another run are. -/
def through (r q : CaseRange) : CaseRange := { r with delta := r.delta + q.delta }

/-- The second run comes after the first one. -/
def Follows (r q : CaseRange) : Prop := r.first ≤ r.last ∧ r.last < q.first

instance : DecidableRel Follows := fun _ _ => inferInstanceAs (Decidable (_ ∧ _))

instance : Trans Follows Follows Follows where
  trans h h' := ⟨h.1, h.2.trans (h'.1.trans_lt h'.2)⟩

variable {r q : CaseRange} {n : Nat}

theorem holds_iff : r.holds n ↔ r.first ≤ n ∧ n ≤ r.last ∧ (n - r.first) % r.step = 0 := by
  simp [holds, and_assoc]

theorem isSound_iff : r.isSound ↔
    0 ≤ r.first + r.delta ∧ (r.high < 0xD800 ∨ 0xDFFF < r.low ∧ r.high < 0x110000) := by
  simp [isSound]

/-- A form is as far from the first form as the code point is from the first one. -/
theorem form_eq (hr : 0 ≤ r.first + r.delta) (h : r.holds n) :
    r.form n = r.low + (n - r.first) ∧ r.form n ≤ r.high ∧ (r.form n : Int) = n + r.delta := by
  obtain ⟨hfirst, hlast, -⟩ := holds_iff.mp h
  simp only [low, high, form]
  omega

theorem isValidChar_form (hr : r.isSound) (h : r.holds n) : (r.form n).isValidChar := by
  obtain ⟨hnonneg, hchars⟩ := isSound_iff.mp hr
  obtain ⟨hlow, hhigh, -⟩ := form_eq hnonneg h
  rcases hchars with hchars | hchars
  · exact .inl (by omega)
  · exact .inr (by omega)

theorem holds_of_lands (hr : 0 ≤ r.first + r.delta) (hlands : r.lands q) (h : r.holds n) :
    q.holds (r.form n) := by
  obtain ⟨hform, hhigh, -⟩ := form_eq hr h
  obtain ⟨hfirst, hlast, hstep⟩ := holds_iff.mp h
  simp only [lands, Bool.and_eq_true, Bool.or_eq_true, decide_eq_true_eq] at hlands
  obtain ⟨⟨⟨hqfirst, hqlast⟩, hqstep⟩, hsteps⟩ := hlands
  refine holds_iff.mpr ⟨by omega, by omega, ?_⟩
  have hoffset : r.form n - q.first = (r.low - q.first) + (n - r.first) := by omega
  have hmore : q.step ∣ n - r.first := by
    rcases hsteps with hsteps | hsingle
    · exact Nat.dvd_trans (Nat.dvd_of_mod_eq_zero hsteps) (Nat.dvd_of_mod_eq_zero hstep)
    · have hzero : n - r.first = 0 := by omega
      rw [hzero]
      exact Nat.dvd_zero _
  rw [hoffset]
  exact Nat.mod_eq_zero_of_dvd (Nat.dvd_add (Nat.dvd_of_mod_eq_zero hqstep) hmore)

theorem not_holds_of_interleaves (hr : 0 ≤ r.first + r.delta) (hgaps : r.interleaves q)
    (h : r.holds n) : ¬q.holds (r.form n) := by
  obtain ⟨hform, -, -⟩ := form_eq hr h
  obtain ⟨hfirst, hlast, hstep⟩ := holds_iff.mp h
  simp only [interleaves, Bool.and_eq_true, Bool.or_eq_true, decide_eq_true_eq] at hgaps
  obtain ⟨⟨htwo, hsteps⟩, hodd⟩ := hgaps
  have heven : (n - r.first) % 2 = 0 := by
    rcases hsteps with hsteps | hsingle
    · rwa [hsteps] at hstep
    · omega
  rw [holds_iff, htwo]
  omega

theorem not_holds_of_avoids {runs : List CaseRange} (hsorted : runs.Pairwise Follows)
    (hr : 0 ≤ r.first + r.delta) (havoids : r.avoids runs) (h : r.holds n) :
    ∀ q ∈ runs, ¬q.holds (r.form n) := by
  obtain ⟨hform, hhigh, -⟩ := form_eq hr h
  induction runs with
  | nil => simp
  | cons first rest ih =>
      obtain ⟨hfirst, hrest⟩ := List.pairwise_cons.mp hsorted
      unfold avoids at havoids
      split at havoids
      · -- the forms are behind the first run
        refine List.forall_mem_cons.mpr ⟨fun hholds => ?_, ih hrest havoids⟩
        have := holds_iff.mp hholds
        omega
      · rw [Bool.or_eq_true, Bool.and_eq_true, decide_eq_true_eq] at havoids
        rcases havoids with hbefore | ⟨hgaps, hmore⟩
        · -- the forms are before the first run, and before all others too
          refine List.forall_mem_cons.mpr ⟨fun hholds => ?_, fun q hq hholds => ?_⟩
          · have := holds_iff.mp hholds
            omega
          · obtain ⟨hnonempty, hlast⟩ := hfirst q hq
            have := holds_iff.mp hholds
            omega
        · exact List.forall_mem_cons.mpr
            ⟨not_holds_of_interleaves hr hgaps h, ih hrest hmore⟩

theorem holds_through : (r.through q).holds n ↔ r.holds n := by
  simp only [holds_iff, through]

theorem nonneg_through (hr : 0 ≤ r.first + r.delta) (hq : 0 ≤ q.first + q.delta)
    (hlands : r.lands q) : 0 ≤ (r.through q).first + (r.through q).delta := by
  simp only [lands, Bool.and_eq_true, decide_eq_true_eq] at hlands
  have hfirst := hlands.1.1.1
  simp only [low, form, through] at hfirst ⊢
  omega

/-- Moved on, the forms are the forms of the forms. -/
theorem form_through (hr : 0 ≤ r.first + r.delta) (h : r.holds n) :
    (r.through q).form n = q.form (r.form n) := by
  obtain ⟨-, -, hform⟩ := form_eq hr h
  simp only [form, through] at hform ⊢
  omega

end CaseRange

/-! ### Tables -/

open CaseRange

/-- The run that ends first of those that do not end before a code point. -/
def near (runs : List CaseRange) (n : Nat) : Option CaseRange :=
  runs.find? fun r => Nat.ble n r.last

/-- The form of a code point that special forms and a table of runs give. -/
def formOf (special : List (Nat × List Nat)) (runs : List CaseRange) (n : Nat) : List Nat :=
  match special.find? fun e => e.1 = n with
  | some e => e.2
  | none =>
    match near runs n with
    | some r => if r.holds n then [r.form n] else [n]
    | none => [n]

/-- The runs follow each other, no code point with a special form is in one of them, and all forms
are characters. -/
structure IsTable (special : List (Nat × List Nat)) (runs : List CaseRange) : Prop where
  sorted : runs.Pairwise Follows
  sound : ∀ r ∈ runs, r.isSound
  apart : ∀ e ∈ special, ∀ r ∈ near runs e.1, ¬r.holds e.1
  valid : ∀ e ∈ special, ∀ n ∈ e.2, n.isValidChar

variable {special : List (Nat × List Nat)} {runs : List CaseRange} {r : CaseRange} {n : Nat}

/-- Only the run that is near can hold a code point. -/
theorem near_eq_some (hsorted : runs.Pairwise Follows) (hr : r ∈ runs) (h : r.holds n) :
    near runs n = some r := by
  obtain ⟨hfirst, hlast, -⟩ := holds_iff.mp h
  rw [near]
  induction runs with
  | nil => cases hr
  | cons first rest ih =>
      obtain ⟨hbefore, hrest⟩ := List.pairwise_cons.mp hsorted
      rcases List.mem_cons.mp hr with rfl | hr
      · exact List.find?_cons_of_pos (by simpa using hlast)
      · have hnot : ¬n ≤ first.last := by
          have := (hbefore r hr).2
          omega
        rw [List.find?_cons_of_neg (by simpa using hnot)]
        exact ih hrest hr

theorem mem_of_near (h : near runs n = some r) : r ∈ runs :=
  List.mem_of_find?_eq_some h

namespace IsTable

theorem find?_holds (htable : IsTable special runs) :
    (runs.find? fun r => r.holds n) = (near runs n).filter fun r => r.holds n := by
  cases hfind : runs.find? fun r => r.holds n with
  | some r =>
      have hholds : r.holds n := by simpa using List.find?_some hfind
      rw [near_eq_some htable.sorted (List.mem_of_find?_eq_some hfind) hholds]
      simp [Option.filter, hholds]
  | none =>
      have hnone := List.find?_eq_none.mp hfind
      symm
      rw [Option.filter_eq_none_iff]
      exact fun r hr => hnone r (mem_of_near hr)

/-- The form of a character is the one of its code point. -/
theorem mapCase_eq (htable : IsTable special runs) (c : Char) :
    mapCase special runs c = (formOf special runs c.toNat).map Char.ofNat := by
  unfold mapCase formOf
  cases special.find? fun e => e.1 = c.toNat with
  | some e => rfl
  | none =>
      dsimp only
      rw [htable.find?_holds]
      cases near runs c.toNat with
      | none => simp [Char.ofNat_toNat]
      | some r =>
          by_cases h : r.holds c.toNat
          · simp [Option.filter, h, form]
          · simp [Option.filter, h, Char.ofNat_toNat]

/-- Where the form of a code point comes from. -/
theorem formOf_cases (n : Nat) :
    (∃ e ∈ special, e.1 = n ∧ formOf special runs n = e.2) ∨
      (∀ e ∈ special, e.1 ≠ n) ∧
        ((∃ r ∈ runs, r.holds n ∧ formOf special runs n = [r.form n]) ∨
          formOf special runs n = [n]) := by
  unfold formOf
  cases hspecial : special.find? fun e => e.1 = n with
  | some e =>
      have hkey : e.1 = n := by simpa using List.find?_some hspecial
      exact .inl ⟨e, List.mem_of_find?_eq_some hspecial, hkey, rfl⟩
  | none =>
      refine .inr ⟨by simpa using hspecial, ?_⟩
      cases hnear : near runs n with
      | none => exact .inr rfl
      | some r =>
          by_cases h : r.holds n
          · exact .inl ⟨r, mem_of_near hnear, h, if_pos h⟩
          · exact .inr (if_neg h)

/-- A code point that no run holds and that has no special form is its own form. -/
theorem formOf_self (hspecial : ∀ e ∈ special, e.1 ≠ n) (hruns : ∀ r ∈ runs, ¬r.holds n) :
    formOf special runs n = [n] := by
  rcases formOf_cases n with
    ⟨e, he, hkey, -⟩ | ⟨-, ⟨r, hr, h, -⟩ | hself⟩
  · exact absurd hkey (hspecial e he)
  · exact absurd h (hruns r hr)
  · exact hself

/-- A run that holds a code point gives its form. -/
theorem formOf_of_holds (htable : IsTable special runs) (hr : r ∈ runs) (h : r.holds n) :
    formOf special runs n = [r.form n] := by
  have hnear := near_eq_some htable.sorted hr h
  have hspecial : special.find? (fun e => e.1 = n) = none := by
    rw [List.find?_eq_none]
    intro e he hkey
    obtain rfl : e.1 = n := by simpa using hkey
    exact htable.apart e he r hnear h
  rw [formOf, hspecial, hnear]
  exact if_pos h

/-- The forms of characters are characters. -/
theorem isValidChar_of_mem (htable : IsTable special runs) (hn : n.isValidChar) {m : Nat}
    (hm : m ∈ formOf special runs n) : m.isValidChar := by
  rcases formOf_cases n with
    ⟨e, he, -, hform⟩ | ⟨-, ⟨r, hr, h, hform⟩ | hform⟩
  · rw [hform] at hm
    exact htable.valid e he m hm
  · rw [hform, List.mem_singleton] at hm
    rw [hm]
    exact isValidChar_form (htable.sound r hr) h
  · rw [hform, List.mem_singleton] at hm
    rwa [hm]

end IsTable

/-! ### The two tables -/

/-- The lower case form of a code point. -/
def lowerForm (n : Nat) : List Nat := formOf lowerSpecial lowerRanges n

/-- The upper case form of a code point. -/
def upperForm (n : Nat) : List Nat := formOf upperSpecial upperRanges n

theorem isTable_lower : IsTable lowerSpecial lowerRanges where
  sorted := List.isChain_iff_pairwise.mp (by decide +kernel)
  sound := by decide +kernel
  apart := by decide +kernel
  valid := by decide +kernel

theorem isTable_upper : IsTable upperSpecial upperRanges where
  sorted := List.isChain_iff_pairwise.mp (by decide +kernel)
  sound := by decide +kernel
  apart := by decide +kernel
  valid := by decide +kernel

/-! ### Lower case -/

/-- The run of a single code point. -/
def point (n : Nat) : CaseRange := ⟨n, n, 1, 0⟩

theorem holds_point (n : Nat) : (point n).holds n := by simp [holds, point]

/-- The forms of lower case have no lower case form. -/
theorem lowerRanges_avoid :
    ∀ r ∈ lowerRanges, r.avoids lowerRanges ∧ r.avoids (lowerSpecial.map fun e => point e.1) := by
  decide +kernel

/-- A lower case form is its own lower case form. -/
theorem lowerForm_settled {n m : Nat} (hm : m ∈ lowerForm n) : lowerForm m = [m] := by
  have hspecial : ∀ e ∈ lowerSpecial, ∀ m ∈ e.2, lowerForm m = [m] := by decide +kernel
  rcases IsTable.formOf_cases n with ⟨e, he, -, hform⟩ | ⟨-, ⟨r, hr, h, hform⟩ | hform⟩
  · rw [lowerForm, hform] at hm
    exact hspecial e he m hm
  · rw [lowerForm, hform, List.mem_singleton] at hm
    obtain ⟨havoids, hpoints⟩ := lowerRanges_avoid r hr
    have hnonneg := (isSound_iff.mp (isTable_lower.sound r hr)).1
    have hpoint := not_holds_of_avoids (by simp [lowerSpecial]) hnonneg hpoints h
    rw [hm]
    refine IsTable.formOf_self (fun e he hkey => ?_)
      (not_holds_of_avoids isTable_lower.sorted hnonneg havoids h)
    exact hpoint (point e.1) (List.mem_map_of_mem he) (hkey ▸ holds_point e.1)
  · rw [lowerForm, hform, List.mem_singleton] at hm
    rw [hm]
    exact hform

/-! ### Upper case -/

/-- The forms of a run of the upper case are in a run of the lower case, and their forms are in a run
of the upper case that leads back. -/
def returns (r : CaseRange) : Bool :=
  (near lowerRanges r.low).any fun q =>
    r.lands q && (near upperRanges (r.through q).low).any fun p =>
      (r.through q).lands p && p.delta = -q.delta

theorem upperRanges_return : ∀ r ∈ upperRanges, returns r := by
  decide +kernel

/-- A code point comes back from lower case. -/
def ComesBack (u : Nat) : Prop := ∃ d ∈ lowerForm u, lowerForm u = [d] ∧ upperForm d = [u]

instance : DecidablePred ComesBack := fun u =>
  inferInstanceAs (Decidable (∃ d ∈ lowerForm u, lowerForm u = [d] ∧ upperForm d = [u]))

theorem upperSpecial_comesBack : ∀ e ∈ upperSpecial, ∃ u ∈ e.2.head?, ComesBack u := by
  decide +kernel

/-- What a run of the upper case makes of a code point comes back. -/
theorem comesBack_form {r : CaseRange} {n : Nat} (hr : r ∈ upperRanges) (h : r.holds n) :
    ComesBack (r.form n) := by
  have hreturns := upperRanges_return r hr
  simp only [returns, Option.any_eq_true, Bool.and_eq_true, decide_eq_true_eq] at hreturns
  obtain ⟨q, hq, hlands, p, hp, hback, hdelta⟩ := hreturns
  have hq := mem_of_near hq
  have hp := mem_of_near hp
  have hrnonneg := (isSound_iff.mp (isTable_upper.sound r hr)).1
  have hqnonneg := (isSound_iff.mp (isTable_lower.sound q hq)).1
  have hqholds : q.holds (r.form n) := holds_of_lands hrnonneg hlands h
  have hpholds : p.holds (q.form (r.form n)) := by
    rw [← form_through hrnonneg h]
    exact holds_of_lands (nonneg_through hrnonneg hqnonneg hlands) hback (holds_through.mpr h)
  have hlower : lowerForm (r.form n) = [q.form (r.form n)] :=
    isTable_lower.formOf_of_holds hq hqholds
  have hthere : p.form (q.form (r.form n)) = r.form n := by
    obtain ⟨-, -, hform⟩ := form_eq hqnonneg hqholds
    rw [form, hform, hdelta]
    omega
  refine ⟨_, by rw [hlower]; exact List.mem_singleton_self _, hlower, ?_⟩
  rw [upperForm, isTable_upper.formOf_of_holds hp hpholds, hthere]

/-- An upper case form starts with a code point that comes back. -/
theorem exists_upperForm {n : Nat} (hn : lowerForm n = [n]) :
    ∃ u us, upperForm n = u :: us ∧ ComesBack u := by
  rcases IsTable.formOf_cases n with ⟨e, he, -, hform⟩ | ⟨-, ⟨r, hr, h, hform⟩ | hform⟩
  · obtain ⟨u, hu, hback⟩ := upperSpecial_comesBack e he
    obtain ⟨us, hus⟩ := List.head?_eq_some_iff.mp hu
    exact ⟨u, us, hform.trans hus, hback⟩
  · exact ⟨_, _, hform, comesBack_form hr h⟩
  · exact ⟨n, [], hform, n, by rw [hn]; exact List.mem_singleton_self n, hn, hform⟩

/-- The characters whose upper case form has a second letter: the sharp s, letters with an apostrophe
or an iota below, and ligatures. -/
def joinedRanges : List (Nat × Nat) :=
  [(0xDF, 0xDF), (0x149, 0x149), (0x587, 0x587), (0x1F80, 0x1FAF), (0x1FB2, 0x1FB4),
    (0x1FB7, 0x1FB7), (0x1FBC, 0x1FBC), (0x1FC2, 0x1FC4), (0x1FC7, 0x1FC7), (0x1FCC, 0x1FCC),
    (0x1FF2, 0x1FF4), (0x1FF7, 0x1FF7), (0x1FFC, 0x1FFC), (0xFB00, 0xFB06), (0xFB13, 0xFB17)]

theorem joined_special : ∀ p ∈ joinedRanges, ∀ k < p.2 + 1 - p.1,
    ∃ e ∈ upperSpecial, e.1 = p.1 + k := by
  decide +kernel

theorem upperSpecial_joined : ∀ e ∈ upperSpecial,
    (∃ m ∈ e.2.tail, lowerForm m ≠ [m]) ↔ inRanges joinedRanges e.1 := by
  decide +kernel

/-- An upper case form has more than one letter for these characters only. -/
theorem exists_mem_tail_upperForm_iff {n : Nat} :
    (∃ m ∈ (upperForm n).tail, lowerForm m ≠ [m]) ↔ inRanges joinedRanges n := by
  rcases @IsTable.formOf_cases upperSpecial upperRanges n with
    ⟨e, he, rfl, hform⟩ | ⟨hspecial, hform⟩
  · rw [upperForm, hform]
    exact upperSpecial_joined e he
  · have htail : (upperForm n).tail = [] := by
      rcases hform with ⟨r, -, -, hform⟩ | hform <;> rw [upperForm, hform, List.tail_cons]
    simp only [htail, List.not_mem_nil, false_and, exists_false, false_iff]
    intro hjoined
    obtain ⟨p, hp, hbounds⟩ := List.any_eq_true.mp hjoined
    rw [Bool.and_eq_true, decide_eq_true_eq, decide_eq_true_eq] at hbounds
    obtain ⟨e, he, hkey⟩ := joined_special p hp (n - p.1) (by omega)
    exact hspecial e he (by omega)

/-! ### Characters -/

/-- A character that is its own lower case form. -/
def IsSettled (c : Char) : Prop := lowerChar c = [c]

/-- A character whose upper case form has a second letter. -/
def IsJoined (c : Char) : Prop := inRanges joinedRanges c.toNat

instance : DecidablePred IsJoined := fun c =>
  inferInstanceAs (Decidable (inRanges joinedRanges c.toNat = true))

variable {c d : Char}

theorem toNat_valid (c : Char) : c.toNat.isValidChar := c.valid

theorem lowerChar_eq (c : Char) : lowerChar c = (lowerForm c.toNat).map Char.ofNat :=
  isTable_lower.mapCase_eq c

theorem upperChar_eq (c : Char) : upperChar c = (upperForm c.toNat).map Char.ofNat :=
  isTable_upper.mapCase_eq c

theorem isSettled_iff : IsSettled c ↔ lowerForm c.toNat = [c.toNat] := by
  rw [IsSettled, lowerChar_eq]
  constructor
  · intro h
    obtain ⟨m, hm, rfl⟩ := List.map_eq_singleton_iff.mp h
    have hvalid := isTable_lower.isValidChar_of_mem (toNat_valid (Char.ofNat m))
      (hm ▸ List.mem_singleton_self m)
    rw [hm, Utf8.toNat_ofNat hvalid]
  · intro h
    rw [h, List.map_singleton, Char.ofNat_toNat]

/-- A lower case form is its own lower case form. -/
theorem isSettled_of_mem (h : d ∈ lowerChar c) : IsSettled d := by
  rw [lowerChar_eq] at h
  obtain ⟨m, hm, rfl⟩ := List.mem_map.mp h
  rw [isSettled_iff, Utf8.toNat_ofNat (isTable_lower.isValidChar_of_mem (toNat_valid c) hm)]
  exact lowerForm_settled hm

/-- An upper case form starts with a character that comes back from its lower case form. -/
theorem exists_upperChar (hc : IsSettled c) :
    ∃ u us d, upperChar c = u :: us ∧ lowerChar u = [d] ∧ upperChar d = [u] := by
  obtain ⟨u, us, hupper, d, -, hlower, hback⟩ := exists_upperForm (isSettled_iff.mp hc)
  have hu : u.isValidChar :=
    isTable_upper.isValidChar_of_mem (toNat_valid c) (by rw [← upperForm, hupper]; simp)
  have hd : d.isValidChar :=
    isTable_lower.isValidChar_of_mem hu (by rw [← lowerForm, hlower]; simp)
  refine ⟨Char.ofNat u, us.map Char.ofNat, Char.ofNat d, ?_, ?_, ?_⟩
  · rw [upperChar_eq, hupper, List.map_cons]
  · rw [lowerChar_eq, Utf8.toNat_ofNat hu, hlower, List.map_singleton]
  · rw [upperChar_eq, Utf8.toNat_ofNat hd, hback, List.map_singleton]

/-- An upper case form has a second letter exactly for the joined characters. -/
theorem forall_mem_tail_upperChar_iff : (∀ d ∈ (upperChar c).tail, IsSettled d) ↔ ¬IsJoined c := by
  rw [IsJoined, ← exists_mem_tail_upperForm_iff, upperChar_eq, ← List.map_tail]
  simp only [List.forall_mem_map, not_exists, not_and, not_not]
  refine forall₂_congr fun m hm => ?_
  have hvalid : m.isValidChar :=
    isTable_upper.isValidChar_of_mem (toNat_valid c) (List.mem_of_mem_tail hm)
  rw [isSettled_iff, Utf8.toNat_ofNat hvalid]

end RailWatch.Text

import Mathlib.Data.List.Chain
import RailWatch.Timetable
/-!
# RailWatch.Proofs.Zone.Order

Later on the wall is later in time.

A clock on the wall is put back now and then, so a later instant may show an earlier reading. The
instants that `Zone.earliest?` gives to readings are in order all the same, because it takes the
first of several instants with one reading. The argument needs that no two switches of the zone are
close together, `Zone.Spaced`: if the offset of a later reading held before that of an earlier one,
it would have held still further back, at an instant that shows the earlier reading too.

The day on the wall never goes back at all, as long as no switch turns the clock back over midnight,
`Zone.KeepsDays`.

For Italian civil time these are `Zone.Rome.earliest?_le` and `Zone.Rome.date_le`.
-/

namespace RailWatch
namespace Zone

/-! ### The offset around a switch -/

/-- Each switch comes more than `d` seconds after the one before it. -/
def Spaced (d : Nat) (switches : List Switch) : Prop :=
  switches.IsChain fun a b : Switch => a.start + (d : Int) < b.start

instance (d : Nat) (switches : List Switch) : Decidable (Spaced d switches) :=
  inferInstanceAs (Decidable (switches.IsChain _))

/-- Of spaced switches, all are spaced from the first one. -/
theorem Spaced.cons_iff {d : Nat} {s : Switch} {rest : List Switch} :
    Spaced d (s :: rest) ↔ (∀ r ∈ rest, s.start + d < r.start) ∧ Spaced d rest := by
  let far : Switch → Switch → Prop := fun a b => a.start + (d : Int) < b.start
  have : Trans far far far := ⟨fun {a b c} (hab : _ < _) (hbc : _ < _) => by
    show _ < _
    omega⟩
  show (s :: rest).IsChain far ↔ _ ∧ rest.IsChain far
  rw [List.isChain_iff_pairwise, List.isChain_iff_pairwise, List.pairwise_cons]

/-- Before all switches the initial offset holds. -/
theorem offsetAfter_eq_current {current : Offset} {switches : List Switch} {t : Int}
    (h : ∀ s ∈ switches, t < s.start) : offsetAfter current switches t = current := by
  cases switches with
  | nil => rfl
  | cons s rest => rw [offsetAfter_cons, if_pos (h s (by simp))]

/-- From a switch on, and not long after it, the offset is the one that it brings. -/
theorem offsetAfter_of_switch {d : Nat} {current : Offset} {switches : List Switch}
    (hs : Spaced d switches) {s : Switch} (hmem : s ∈ switches) {t : Int} (hst : s.start ≤ t)
    (hd : t - s.start ≤ d) : offsetAfter current switches t = s.offset := by
  induction switches generalizing current with
  | nil => cases hmem
  | cons r rest ih =>
      obtain ⟨hfar, hrest⟩ := Spaced.cons_iff.mp hs
      rw [offsetAfter_cons]
      rcases List.mem_cons.mp hmem with rfl | hmem
      · rw [if_neg (by omega)]
        refine offsetAfter_eq_current fun r hr => ?_
        have := hfar r hr
        omega
      · have := hfar s hmem
        rw [if_neg (by omega)]
        exact ih hrest hmem

/-- Just before a switch holds what holds in the last second before it. -/
theorem offsetAfter_before_switch {d : Nat} {current : Offset} {switches : List Switch}
    (hs : Spaced d switches) {s : Switch} (hmem : s ∈ switches) {t : Int} (hst : t < s.start)
    (hd : s.start - t ≤ d) :
    offsetAfter current switches t = offsetAfter current switches (s.start - 1) := by
  induction switches generalizing current with
  | nil => cases hmem
  | cons r rest ih =>
      obtain ⟨hfar, hrest⟩ := Spaced.cons_iff.mp hs
      rw [offsetAfter_cons, offsetAfter_cons]
      rcases List.mem_cons.mp hmem with rfl | hmem
      · rw [if_pos hst, if_pos (by omega)]
      · have := hfar s hmem
        rw [if_neg (by omega), if_neg (by omega)]
        exact ih hrest hmem

/-- The offset changes at switches only. -/
theorem exists_switch_of_offset_ne {current : Offset} {switches : List Switch} {j i : Int}
    (hji : j ≤ i) (hne : offsetAfter current switches j ≠ offsetAfter current switches i) :
    ∃ s ∈ switches, j < s.start ∧ s.start ≤ i := by
  induction switches generalizing current with
  | nil => exact absurd rfl hne
  | cons r rest ih =>
      rw [offsetAfter_cons, offsetAfter_cons] at hne
      by_cases hj : j < r.start
      · by_cases hi : i < r.start
        · rw [if_pos hj, if_pos hi] at hne
          exact absurd rfl hne
        · exact ⟨r, List.mem_cons_self, hj, by omega⟩
      · rw [if_neg hj, if_neg (by omega)] at hne
        obtain ⟨s, hmem, hs⟩ := ih hne
        exact ⟨s, List.mem_cons_of_mem _ hmem, hs⟩

/-- An offset that changes between `j` and `i` has held since `t`, if `t` is not long before. -/
theorem offsetAfter_eq_of_change {d : Nat} {current : Offset} {switches : List Switch}
    (hs : Spaced d switches) {t j i : Int} (htj : t ≤ j) (hji : j ≤ i) (hd : i - t ≤ d)
    (hne : offsetAfter current switches j ≠ offsetAfter current switches i) :
    offsetAfter current switches t = offsetAfter current switches j := by
  obtain ⟨s, hmem, hjs, hsi⟩ := exists_switch_of_offset_ne hji hne
  rw [offsetAfter_before_switch hs hmem (by omega) (by omega),
    offsetAfter_before_switch hs hmem hjs (by omega)]

/-! ### The earliest instant -/

/-- In a list in falling order the first match is the greatest one. -/
theorem le_of_find?_eq_some {l : List Int} (hl : l.Pairwise (· > ·)) {p : Int → Bool} {a b : Int}
    (ha : l.find? p = some a) (hb : b ∈ l) (hp : p b = true) : b ≤ a := by
  obtain ⟨-, front, back, rfl, hfront⟩ := List.find?_eq_some_iff_append.mp ha
  rcases List.mem_append.mp hb with hb | hb
  · exact absurd hp (by simpa using hfront b hb)
  · rcases List.mem_cons.mp hb with rfl | hb
    · exact Int.le_refl _
    · have := (List.pairwise_cons.mp (List.pairwise_append.mp hl).2.1).1 b hb
      omega

/-- An instant that was found shows the reading under one of the candidates, and under no greater
one does an instant show it. -/
theorem earliest?_eq_some {z : Zone} {candidates : List Int} (hc : candidates.Pairwise (· > ·))
    {r : Reading} {i : Instant} (h : z.earliest? candidates r = some i) :
    ∃ o ∈ candidates, i = ⟨r.seconds - o, r.clock.nanos⟩ ∧ (z.offsetAt i.seconds).seconds = o ∧
      ∀ o' ∈ candidates, (z.offsetAt (r.seconds - o')).seconds = o' → o' ≤ o := by
  simp only [earliest?, Option.map_eq_some_iff] at h
  obtain ⟨o, ho, rfl⟩ := h
  have hs := List.find?_some ho
  simp only [decide_eq_true_eq] at hs
  exact ⟨o, List.mem_of_find?_eq_some ho, rfl, hs,
    fun o' ho' hp => le_of_find?_eq_some hc ho ho' (by simpa using hp)⟩

/-- Of two readings the later one is shown later, at the earliest, if no two switches are as close
together as two candidates may be apart. -/
theorem earliest?_seconds_lt {z : Zone} {candidates : List Int} {d : Nat}
    (hz : Spaced d z.switches) (hc : candidates.Pairwise (· > ·))
    (hd : ∀ o ∈ candidates, ∀ o' ∈ candidates, o - o' ≤ d) {r s : Reading} {i j : Instant}
    (hi : z.earliest? candidates r = some i) (hj : z.earliest? candidates s = some j)
    (h : r.seconds < s.seconds) : i.seconds < j.seconds := by
  obtain ⟨o, ho, rfl, hio, hmax⟩ := earliest?_eq_some hc hi
  obtain ⟨o', ho', rfl, hjo, -⟩ := earliest?_eq_some hc hj
  by_contra hle
  simp only at hle hio hjo
  have hdist := hd o' ho' o ho
  -- `r` is shown at `r.seconds - o'` as well, under the greater offset
  have hback : z.offsetAt (r.seconds - o') = z.offsetAt (s.seconds - o') := by
    refine offsetAfter_eq_of_change hz (i := r.seconds - o) (by omega) (by omega) (by omega) ?_
    intro heq
    have hoff := congrArg Offset.seconds heq
    simp only [offsetAt] at hio hjo
    omega
  have := hmax o' ho' (by rw [hback, hjo])
  omega

/-! ### The day on the wall -/

/-- No switch turns the clock back over midnight: the day of the last second before a switch is not
after the day of the switch. -/
def KeepsDays (current : Offset) : List Switch → Prop
  | [] => True
  | s :: rest =>
    (s.start - 1 + current.seconds) / secondsPerDay ≤
        (s.start + s.offset.seconds) / secondsPerDay ∧
      KeepsDays s.offset rest

instance decidableKeepsDays : (current : Offset) → (switches : List Switch) →
    Decidable (KeepsDays current switches)
  | _, [] => .isTrue trivial
  | _, s :: rest => @instDecidableAnd _ _ _ (decidableKeepsDays s.offset rest)

/-- In a zone that keeps its days the day on the wall never goes back. -/
theorem day_le_of_keepsDays {d : Nat} {current : Offset} {switches : List Switch}
    (hs : Spaced d switches) (hk : KeepsDays current switches) {i j : Int} (hij : i ≤ j) :
    (i + (offsetAfter current switches i).seconds) / secondsPerDay ≤
      (j + (offsetAfter current switches j).seconds) / secondsPerDay := by
  have hpos : (0 : Int) < secondsPerDay := by decide
  induction switches generalizing current i with
  | nil => exact Int.ediv_le_ediv hpos (by simpa using hij)
  | cons s rest ih =>
      obtain ⟨hday, hrest⟩ := hk
      have hlater := fun {k : Int} (hk : k ≤ j) => ih (Spaced.cons_iff.mp hs).2 hrest hk
      by_cases hi : i < s.start
      · by_cases hj : j < s.start
        · rw [offsetAfter_cons, offsetAfter_cons, if_pos hi, if_pos hj]
          exact Int.ediv_le_ediv hpos (by omega)
        · -- from `i` to the last second before the switch, over the switch, and on to `j`
          have hat : offsetAfter s.offset rest s.start = s.offset := by
            have hstart : offsetAfter current (s :: rest) s.start = s.offset :=
              offsetAfter_of_switch hs List.mem_cons_self (Int.le_refl _) (by omega)
            rwa [offsetAfter_cons, if_neg (Int.lt_irrefl _)] at hstart
          have hfrom := hlater (Int.not_lt.mp hj)
          rw [hat] at hfrom
          rw [offsetAfter_cons, offsetAfter_cons, if_pos hi, if_neg hj]
          calc (i + current.seconds) / secondsPerDay
              ≤ (s.start - 1 + current.seconds) / secondsPerDay :=
                Int.ediv_le_ediv hpos (by omega)
            _ ≤ (s.start + s.offset.seconds) / secondsPerDay := hday
            _ ≤ _ := hfrom
      · rw [offsetAfter_cons, offsetAfter_cons, if_neg hi, if_neg (by omega)]
        exact hlater hij

namespace Rome

set_option maxRecDepth 4000 in
theorem spaced : Spaced 4204 zone.switches := by
  decide

theorem offsets_falling : offsets.Pairwise (· > ·) := by
  decide

theorem offsets_sub_le : ∀ o ∈ offsets, ∀ o' ∈ offsets, o - o' ≤ (4204 : Nat) := by
  decide

/-- An instant that was found does show the reading. -/
theorem reading_of_earliest? {r : Reading} {i : Instant} (h : earliest? r = some i) :
    reading i = r :=
  Zone.reading_of_earliest? (Option.filter_eq_some_iff.mp h).1

/-- The earliest instants of two readings are in the order of the readings. -/
theorem earliest?_le {r s : Reading} {i j : Instant} (hi : earliest? r = some i)
    (hj : earliest? s = some j)
    (h : r.seconds < s.seconds ∨ r.seconds = s.seconds ∧ r.clock.nanos ≤ s.clock.nanos) :
    i ≤ j := by
  have hi' := (Option.filter_eq_some_iff.mp hi).1
  have hj' := (Option.filter_eq_some_iff.mp hj).1
  rcases h with h | ⟨hsec, hnanos⟩
  · exact .inl (earliest?_seconds_lt spaced offsets_falling offsets_sub_le hi' hj' h)
  · -- the search looks at the seconds only, so it ends at the same candidate
    simp only [Zone.earliest?, hsec, Option.map_eq_some_iff] at hi' hj'
    obtain ⟨o, ho, rfl⟩ := hi'
    obtain ⟨o', ho', rfl⟩ := hj'
    obtain rfl : o = o' := Option.some.inj (ho.symm.trans ho')
    exact .inr ⟨rfl, hnanos⟩

set_option maxRecDepth 4000 in
theorem keepsDays : KeepsDays zone.initial zone.switches := by
  decide

/-- In Italy the calendar never goes back, though the clock does. -/
theorem date_le {a b : Instant} (h : a ≤ b) : (date a).day ≤ (date b).day := by
  have hsec : a.seconds ≤ b.seconds := by
    rcases h with h | ⟨h, -⟩ <;> omega
  exact day_le_of_keepsDays spaced keepsDays hsec

/-- A moment between two on one day in Italy is on that day too. -/
theorem date_eq_of_between {first now last : Instant} {d : Date} (hfirst : first ≤ now)
    (hlast : now ≤ last) (h : date first = d) (h' : date last = d) : date now = d := by
  have hle := date_le hfirst
  have hge := date_le hlast
  rw [h] at hle
  rw [h'] at hge
  rw [Date.eq_iff_day]
  omega

end Rome
end Zone
end RailWatch

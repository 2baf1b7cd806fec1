import RailWatch.Proofs.Journey.Status
/-!
# RailWatch.Proofs.Journey.Position

Where a train is, from the passes that it has confirmed.

The position is that of the first pass, if it is confirmed, unless a later one takes its place
(`position?_cons`). So passes behind a gap do not count, and passes behind a run without one count
before those of the run. `ReportedAt` says at which place of the list the position stands. No pass
that is confirmed in addition moves it back.
-/

namespace RailWatch

open Payload

/-- Where a train is that has confirmed this pass and none after it. -/
def Payload.PassRecord.position? (p : PassRecord) : Option Position :=
  p.confirmed?.map fun (id, name) => ⟨id, name, StopRole.ofCode p.code, none, none⟩

theorem Payload.PassRecord.isSome_position?_iff {p : PassRecord} :
    p.position?.isSome = true ↔ p.IsConfirmed := by
  rw [PassRecord.position?, Option.isSome_map, PassRecord.isSome_confirmed?_iff]

theorem Payload.PassRecord.isConfirmed_of_position? {p : PassRecord} {own : Position}
    (h : p.position? = some own) : p.IsConfirmed :=
  isSome_position?_iff.mp (Option.isSome_of_eq_some h)

theorem Payload.PassRecord.position?_eq_none {p : PassRecord} (h : ¬p.IsConfirmed) :
    p.position? = none := by
  rw [← PassRecord.isSome_position?_iff] at h
  simpa using h

theorem Payload.PassRecord.IsConfirmed.exists_position? {p : PassRecord} (h : p.IsConfirmed) :
    ∃ own, p.position? = some own :=
  Option.isSome_iff_exists.mp (PassRecord.isSome_position?_iff.mpr h)

namespace Journey

/-! ### One pass after the other -/

@[simp] theorem position?_nil : position? [] = none := rfl

/-- A confirmed pass counts unless a later one does. -/
theorem position?_cons (p : PassRecord) (rest : List PassRecord) :
    position? (p :: rest) = p.position?.map fun own => (position? rest).getD own := by
  have hposition : ∀ passes, position? passes =
      (confirmedPrefix passes).getLast?.bind PassRecord.position? := fun _ => rfl
  rw [hposition, hposition, confirmedPrefix, List.takeWhile_cons]
  by_cases hp : p.IsConfirmed
  · obtain ⟨own, hown⟩ := hp.exists_position?
    rw [if_pos (PassRecord.isSome_confirmed?_iff.mpr hp), List.getLast?_cons, hown]
    change (((confirmedPrefix rest).getLast?.getD p).position?) = _
    cases hlast : (confirmedPrefix rest).getLast? with
    | none => simp [hown]
    | some q =>
        -- the last one of the run is confirmed, so it does have a position
        have hq := List.mem_takeWhile_imp (List.mem_of_getLast? hlast)
        obtain ⟨later, hlater⟩ := (PassRecord.isSome_confirmed?_iff.mp hq).exists_position?
        simp [hlater]
  · rw [if_neg (fun h => hp (PassRecord.isSome_confirmed?_iff.mp h)), PassRecord.position?_eq_none hp]
    rfl

theorem position?_cons_of_not_confirmed {p : PassRecord} (hp : ¬p.IsConfirmed)
    (rest : List PassRecord) : position? (p :: rest) = none := by
  rw [position?_cons, PassRecord.position?_eq_none hp, Option.map_none]

/-- There is a position as soon as the first pass is confirmed. -/
theorem isSome_position?_iff {passes : List PassRecord} :
    (position? passes).isSome = true ↔ ∃ p rest, passes = p :: rest ∧ p.IsConfirmed := by
  cases passes with
  | nil => simp
  | cons p rest =>
      rw [position?_cons, Option.isSome_map, PassRecord.isSome_position?_iff]
      simp

/-! ### Two stretches of passes -/

/-- What comes behind a gap does not count. -/
theorem position?_append_of_gap {front back : List PassRecord}
    (h : ∃ p ∈ front, ¬p.IsConfirmed) : position? (front ++ back) = position? front := by
  induction front with
  | nil => simp at h
  | cons p rest ih =>
      rw [List.cons_append]
      by_cases hp : p.IsConfirmed
      · have hrest : ∃ q ∈ rest, ¬q.IsConfirmed := by
          obtain ⟨q, hmem, hq⟩ := h
          rcases List.mem_cons.mp hmem with rfl | hmem
          · exact absurd hp hq
          · exact ⟨q, hmem, hq⟩
        rw [position?_cons, position?_cons, ih hrest]
      · rw [position?_cons_of_not_confirmed hp, position?_cons_of_not_confirmed hp]

/-- What comes behind a run without a gap counts before the run. -/
theorem position?_append_of_confirmed {front back : List PassRecord}
    (h : ∀ p ∈ front, p.IsConfirmed) :
    position? (front ++ back) = (position? back).or (position? front) := by
  induction front with
  | nil => simp
  | cons p rest ih =>
      obtain ⟨own, hown⟩ := (h p List.mem_cons_self).exists_position?
      rw [List.cons_append, position?_cons, position?_cons,
        ih fun q hq => h q (List.mem_cons_of_mem _ hq), hown]
      cases position? back <;> simp

/-! ### The place of the position -/

/-- The position is that of the pass at this place: it and all before it are confirmed, and the next
one, if there is one, is not. -/
structure ReportedAt (passes : List PassRecord) (k : Nat) (position : Position) : Prop where
  confirmed : ∀ n ≤ k, ∃ p, passes[n]? = some p ∧ p.IsConfirmed
  last : ∀ p, passes[k + 1]? = some p → ¬p.IsConfirmed
  position : ∃ p, passes[k]? = some p ∧ p.position? = some position

/-- The position is at one place only. -/
theorem ReportedAt.unique {passes : List PassRecord} {k k' : Nat} {position position' : Position}
    (h : ReportedAt passes k position) (h' : ReportedAt passes k' position') : k = k' := by
  rcases Nat.lt_trichotomy k k' with hlt | heq | hlt
  · obtain ⟨p, hp, hconfirmed⟩ := h'.confirmed (k + 1) hlt
    exact absurd hconfirmed (h.last p hp)
  · exact heq
  · obtain ⟨p, hp, hconfirmed⟩ := h.confirmed (k' + 1) hlt
    exact absurd hconfirmed (h'.last p hp)

theorem reportedAt_cons_zero {p : PassRecord} {rest : List PassRecord} {position : Position} :
    ReportedAt (p :: rest) 0 position ↔
      p.position? = some position ∧ ∀ q, rest.head? = some q → ¬q.IsConfirmed := by
  constructor
  · rintro ⟨-, hlast, _, ⟨⟩, hposition⟩
    refine ⟨hposition, fun q hq => hlast q ?_⟩
    rwa [List.getElem?_cons_succ, ← List.head?_eq_getElem?]
  · rintro ⟨hposition, hlast⟩
    have hp := PassRecord.isConfirmed_of_position? hposition
    refine ⟨fun n hn => ⟨p, ?_, hp⟩, fun q hq => hlast q ?_, p, rfl, hposition⟩
    · obtain rfl := Nat.le_zero.mp hn
      rfl
    · rwa [List.getElem?_cons_succ, ← List.head?_eq_getElem?] at hq

theorem reportedAt_cons_succ {p : PassRecord} {rest : List PassRecord} {k : Nat}
    {position : Position} :
    ReportedAt (p :: rest) (k + 1) position ↔ p.IsConfirmed ∧ ReportedAt rest k position := by
  constructor
  · rintro ⟨hconfirmed, hlast, hposition⟩
    obtain ⟨_, ⟨⟩, hp⟩ := hconfirmed 0 (Nat.zero_le _)
    exact ⟨hp, fun n hn => hconfirmed (n + 1) (by omega), hlast, hposition⟩
  · rintro ⟨hp, hconfirmed, hlast, hposition⟩
    refine ⟨fun n hn => ?_, hlast, hposition⟩
    cases n with
    | zero => exact ⟨p, rfl, hp⟩
    | succ n => exact hconfirmed n (by omega)

/-- The position of the passes is at some place. -/
theorem position?_eq_some_iff_reportedAt {passes : List PassRecord} {position : Position} :
    position? passes = some position ↔ ∃ k, ReportedAt passes k position := by
  induction passes generalizing position with
  | nil =>
      simp only [position?_nil, reduceCtorEq, false_iff, not_exists]
      rintro k ⟨-, -, _, ⟨⟩, -⟩
  | cons p rest ih =>
      rw [position?_cons, Option.map_eq_some_iff]
      constructor
      · rintro ⟨own, hown, hposition⟩
        cases hrest : position? rest with
        | none =>
            -- the next pass is not confirmed, or there were a position behind this one
            rw [hrest, Option.getD_none] at hposition
            refine ⟨0, reportedAt_cons_zero.mpr ⟨hposition ▸ hown, fun q hq hconfirmed => ?_⟩⟩
            obtain ⟨more, rfl⟩ := List.head?_eq_some_iff.mp hq
            have hsome := isSome_position?_iff.mpr ⟨q, more, rfl, hconfirmed⟩
            simp [hrest] at hsome
        | some later =>
            rw [hrest, Option.getD_some] at hposition
            obtain ⟨k, hk⟩ := ih.mp (hposition ▸ hrest)
            have hp := PassRecord.isConfirmed_of_position? hown
            exact ⟨k + 1, reportedAt_cons_succ.mpr ⟨hp, hk⟩⟩
      · rintro ⟨k, hk⟩
        cases k with
        | zero =>
            obtain ⟨hown, hlast⟩ := reportedAt_cons_zero.mp hk
            refine ⟨position, hown, ?_⟩
            cases hrest : position? rest with
            | none => rfl
            | some later =>
                obtain ⟨q, more, rfl, hq⟩ := isSome_position?_iff.mp (by rw [hrest]; rfl)
                exact absurd hq (hlast q rfl)
        | succ k =>
            obtain ⟨hp, hk⟩ := reportedAt_cons_succ.mp hk
            obtain ⟨own, hown⟩ := hp.exists_position?
            exact ⟨own, hown, by rw [ih.mpr ⟨k, hk⟩, Option.getD_some]⟩

/-- Whatever takes the place of a pass that is not confirmed, the position moves on or stays where
it is. -/
theorem ReportedAt.exists_of_replaced {front back : List PassRecord} {p : PassRecord}
    (hp : ¬p.IsConfirmed) {k : Nat} {position : Position}
    (h : ReportedAt (front ++ p :: back) k position) (q : PassRecord) :
    ∃ k' position', k ≤ k' ∧ ReportedAt (front ++ q :: back) k' position' := by
  -- the run ends within the front, before the pass that is not confirmed
  have hk : k < front.length := by
    by_contra hle
    obtain ⟨p', hp', hconfirmed⟩ := h.confirmed front.length (by omega)
    rw [List.getElem?_append_right (Nat.le_refl _), Nat.sub_self] at hp'
    obtain rfl : p = p' := Option.some.inj hp'
    exact hp hconfirmed
  have hsame : ∀ n ≤ k, ∃ r, (front ++ q :: back)[n]? = some r ∧ r.IsConfirmed := fun n hn => by
    have hfront := h.confirmed n hn
    rw [List.getElem?_append_left (by omega)] at hfront ⊢
    exact hfront
  obtain ⟨r, hr, hconfirmed⟩ := hsame 0 (Nat.zero_le _)
  obtain ⟨more, hmore⟩ := List.head?_eq_some_iff.mp (List.head?_eq_getElem?.trans hr)
  have hsome := isSome_position?_iff.mpr ⟨r, more, hmore, hconfirmed⟩
  obtain ⟨position', hposition'⟩ := Option.isSome_iff_exists.mp hsome
  obtain ⟨k', hk'⟩ := position?_eq_some_iff_reportedAt.mp hposition'
  refine ⟨k', position', ?_, hk'⟩
  by_contra hlt
  obtain ⟨r', hr', hnext⟩ := hsame (k' + 1) (by omega)
  exact hk'.last r' hr' hnext

/-- **The position is that of the last pass of the confirmed run.** Passes behind one that is not
confirmed do not count, and behind a run of confirmed ones the position is that of the later passes,
if they have one. There is one exactly if the first pass is confirmed. It stands at one place in the
list. If a pass that was not confirmed is confirmed, or changes in any other way, it does not move
back. -/
theorem position?_of_confirmed_run :
    (∀ front back, (∃ p ∈ front, ¬p.IsConfirmed) →
        position? (front ++ back) = position? front) ∧
      (∀ front back, (∀ p ∈ front, p.IsConfirmed) →
        position? (front ++ back) = (position? back).or (position? front)) ∧
      (∀ passes, (position? passes).isSome = true ↔
        ∃ p rest, passes = p :: rest ∧ p.IsConfirmed) ∧
      (∀ passes position, position? passes = some position ↔
        ∃! k, ReportedAt passes k position) ∧
      ∀ front back p q, ¬p.IsConfirmed → ∀ k position,
        ReportedAt (front ++ p :: back) k position →
          ∃ k' position', k ≤ k' ∧ ReportedAt (front ++ q :: back) k' position' := by
  refine ⟨fun _ _ => position?_append_of_gap, fun _ _ => position?_append_of_confirmed,
    fun _ => isSome_position?_iff, fun passes position => ?_,
    fun _ _ _ q hp _ _ h => h.exists_of_replaced hp q⟩
  rw [position?_eq_some_iff_reportedAt]
  exact ⟨fun ⟨k, hk⟩ => ⟨k, hk, fun _ h => h.unique hk⟩, fun ⟨k, hk, _⟩ => ⟨k, hk⟩⟩

/-- A train that is known to have passed its first and its last point, but for a cancelled stop
between them, and the same train once the stop is not cancelled any more. -/
theorem position?_of_confirmed_run_cancelledStop :
    let origin : PassRecord := ⟨"O", false, some ⟨some "S01800", some "VARESE"⟩⟩
    let stop : PassRecord := ⟨"F", false, some ⟨some "S01850", some "RHO"⟩⟩
    let cancelled := { stop with cancelled := true }
    let last : PassRecord := ⟨"D", false, some ⟨some "S01900", some "TREVIGLIO"⟩⟩
    let start : Position := ⟨"S01800", "VARESE", .origin, none, none⟩
    (¬cancelled.IsConfirmed ∧
        position? ([origin, cancelled] ++ [last]) = position? [origin, cancelled]) ∧
      (origin.IsConfirmed ∧
        position? ([origin] ++ [cancelled, last]) =
          (position? [cancelled, last]).or (position? [origin])) ∧
      (position? [origin, cancelled, last]).isSome = true ∧
      (∃! k, ReportedAt [origin, cancelled, last] k start) ∧
      ∃ k position, 0 ≤ k ∧ ReportedAt [origin, stop, last] k position := by
  intro origin stop cancelled last start
  have horigin : origin.IsConfirmed := ⟨rfl, _, _, rfl⟩
  have hcancelled : ¬cancelled.IsConfirmed := fun h => Bool.noConfusion h.1
  obtain ⟨hgap, hrun, hsome, hplace, hreplaced⟩ := position?_of_confirmed_run
  have hstart : position? [origin, cancelled, last] = some start := by decide
  obtain ⟨k, hk, -⟩ := (hplace _ _).mp hstart
  obtain ⟨k', position, -, hk'⟩ := hreplaced [origin] [last] cancelled stop hcancelled k start hk
  exact ⟨⟨hcancelled, hgap _ _ ⟨cancelled, by simp, hcancelled⟩⟩,
    ⟨horigin, hrun _ _ (by simpa using horigin)⟩, (hsome _).mpr ⟨_, _, rfl, horigin⟩,
    (hplace _ _).mp hstart, k', position, Nat.zero_le _, hk'⟩

end Journey
end RailWatch

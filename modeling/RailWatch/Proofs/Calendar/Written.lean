import RailWatch.Proofs.Calendar.Civil
import RailWatch.Proofs.Settings.Timestamp
import RailWatch.Timetable
/-!
# RailWatch.Proofs.Calendar.Written

Which texts are read as dates and times of day.

`DateText` and `ClockText` are the grammar of what is read. It is wider than the form that is asked
for, `CompactForm` and `ClockForm`: a number may have fewer digits than its place is wide, with
blanks in front, and a year may have a sign. In the form that is asked for, a text is read exactly if
it is how the day or the time is written (`Timetable.reads_iff`). Outside of it a text may say another
day than the one that was meant (`Timetable.short_text_read`).
-/

namespace RailWatch

open Text
open Json (AllDigits Digitless spanDigits_digits allDigits_spanDigits)

/-! ### Numbers of a fixed width -/

namespace Text

theorem digitValue_inj {c d : Char} (hc : isDigit c = true) (hd : isDigit d = true)
    (h : digitValue c = digitValue d) : c = d := by
  have hc' := isDigit_iff.mp hc
  have hd' := isDigit_iff.mp hd
  unfold digitValue at h
  exact Char.toNat_inj.mp (by omega)

/-- Digits that are as many and write the same number are the same. -/
theorem natOfDigits_inj {ds es : List Char} (hds : AllDigits ds) (hes : AllDigits es)
    (hlength : ds.length = es.length) (hvalue : natOfDigits ds = natOfDigits es) : ds = es := by
  induction ds generalizing es with
  | nil => exact (List.length_eq_zero_iff.mp hlength.symm).symm
  | cons c ds ih =>
      cases es with
      | nil => cases hlength
      | cons d es =>
          have hlen : ds.length = es.length := Nat.succ.inj hlength
          have hds' : AllDigits ds := fun x hx => hds x (by simp [hx])
          have hes' : AllDigits es := fun x hx => hes x (by simp [hx])
          have hlow := hlen ▸ natOfDigits_lt hds'
          have hlow' := natOfDigits_lt hes'
          rw [natOfDigits_cons, natOfDigits_cons, hlen] at hvalue
          have hrest : natOfDigits ds = natOfDigits es := by
            rw [← Nat.mul_add_mod_of_lt hlow, hvalue, Nat.mul_add_mod_of_lt hlow']
          rw [hrest, Nat.add_right_cancel_iff,
            Nat.mul_left_inj (Nat.pow_pos (by decide)).ne'] at hvalue
          rw [digitValue_inj (hds c (by simp)) (hes d (by simp)) hvalue, ih hds' hes' hlen hrest]

/-- The digits of core are the digits here. -/
theorem isDigit_of_isDigit {c : Char} (h : c.isDigit = true) : isDigit c = true := by
  simp only [Char.isDigit, Bool.and_eq_true, decide_eq_true_eq, ge_iff_le,
    UInt32.le_iff_toNat_le] at h
  exact isDigit_iff.mpr h

end Text

namespace Timestamp

variable {width n : Nat} {ds es : List Char}

theorem Digits.lt (h : Digits width ds n) : n < 10 ^ width := by
  obtain ⟨rfl, hall, rfl⟩ := h
  exact natOfDigits_lt hall

theorem Digits.ne_nil (h : Digits width ds n) (hwidth : 0 < width) : ds ≠ [] := by
  obtain ⟨rfl, -, -⟩ := h
  exact List.length_pos_iff.mp hwidth

theorem Digits.eq (hds : Digits width ds n) (hes : Digits width es n) : ds = es :=
  natOfDigits_inj hds.2.1 hes.2.1 (hds.1.trans hes.1.symm) (hds.2.2.trans hes.2.2.symm)

theorem allDigits_padded (width n : Nat) : AllDigits (padded width n).toList := by
  intro c hc
  rw [padded, String.toList_ofList] at hc
  rcases List.mem_append.mp hc with hc | hc
  · rw [(List.mem_replicate.mp hc).2]
    decide
  · exact isDigit_of_isDigit (Nat.isDigit_of_mem_toDigits (by decide) (by decide) hc)

/-- A number that is not too large fills its width. -/
theorem digits_padded (hwidth : 0 < width) (hn : n < 10 ^ width) :
    Digits width (padded width n).toList n := by
  have hlength : (digitsOf n).length ≤ width :=
    (Nat.length_toDigits_le_iff (by decide) hwidth).mpr hn
  have hvalue : natOfDigits (digitsOf n) = n := Nat.ofDigitChars_ten_toDigits
  have hzeros : natOfDigits (List.replicate (width - (digitsOf n).length) '0') = 0 :=
    Nat.ofDigitChars_replicate_zero
  refine ⟨?_, allDigits_padded width n, ?_⟩
  · rw [padded, String.toList_ofList, List.length_append, List.length_replicate]
    omega
  · rw [padded, String.toList_ofList, natOfDigits_append, hzeros, hvalue, Nat.zero_mul,
      Nat.zero_add]

/-- There is one way to write a number in so many digits. -/
theorem digits_iff (hwidth : 0 < width) :
    Digits width ds n ↔ n < 10 ^ width ∧ ds = (padded width n).toList := by
  constructor
  · intro h
    exact ⟨h.lt, h.eq (digits_padded hwidth h.lt)⟩
  · intro ⟨hn, hds⟩
    rw [hds]
    exact digits_padded hwidth hn

end Timestamp

namespace Written

open Timestamp (Digits digits_iff)

/-! ### What is read -/

/-- At the start of a text there are blanks and then a number of at most `width` digits, of which
there are fewer only if no further digit follows. -/
inductive NumberAt (width : Nat) : List Char → Nat → List Char → Prop
  | mk {w ds rest : List Char} : isAllBlank w = true → ds ≠ [] → ds.length ≤ width →
      AllDigits ds → (ds.length < width → Digitless rest) →
      NumberAt width (w ++ (ds ++ rest)) (natOfDigits ds) rest

/-- At the start of a text there is a year: up to four digits, or a sign and any number of them. -/
inductive YearAt : List Char → Int → List Char → Prop
  | plain {s rest : List Char} {n : Nat} : NumberAt 4 s n rest → YearAt s n rest
  | plus {w ds rest : List Char} : isAllBlank w = true → ds ≠ [] → AllDigits ds →
      Digitless rest → YearAt (w ++ '+' :: (ds ++ rest)) (natOfDigits ds) rest
  | minus {w ds rest : List Char} : isAllBlank w = true → ds ≠ [] → AllDigits ds →
      Digitless rest → YearAt (w ++ '-' :: (ds ++ rest)) (-natOfDigits ds) rest

/-- A year, a month and a day of month in a row, and nothing after them. -/
def DateText (s : List Char) (year : Int) (month day : Nat) : Prop :=
  ∃ s1 s2, YearAt s year s1 ∧ NumberAt 2 s1 month s2 ∧ NumberAt 2 s2 day []

/-- An hour, a minute and a second with colons between them, and nothing after them. -/
def ClockText (s : List Char) (hour minute second : Nat) : Prop :=
  ∃ s1 s2, NumberAt 2 s hour (':' :: s1) ∧ NumberAt 2 s1 minute (':' :: s2) ∧
    NumberAt 2 s2 second []

variable {width n : Nat} {s rest ds : List Char}

theorem takeWhile_take_digits (hle : ds.length ≤ width) (hall : AllDigits ds)
    (hrest : ds.length < width → Digitless rest) :
    ((ds ++ rest).take width).takeWhile isDigit = ds := by
  rw [List.take_append, List.take_of_length_le hle, List.takeWhile_append_of_pos hall]
  rcases Nat.lt_or_eq_of_le hle with hlt | heq
  · cases rest with
    | nil => simp
    | cons c r =>
        obtain ⟨k, hk⟩ := Nat.exists_eq_succ_of_ne_zero (Nat.sub_ne_zero_of_lt hlt)
        rw [hk, List.take_succ_cons, List.takeWhile_cons_of_neg, List.append_nil]
        rw [hrest hlt c r rfl]
        exact Bool.false_ne_true
  · simp [heq]

theorem digitless_drop_takeWhile (hlt : ((s.take width).takeWhile isDigit).length < width) :
    Digitless (s.drop ((s.take width).takeWhile isDigit).length) := by
  induction s generalizing width with
  | nil => simp [Digitless]
  | cons d s ih =>
      cases width with
      | zero => cases hlt
      | succ k =>
          by_cases hd : isDigit d = true
          · simp only [List.take_succ_cons, List.takeWhile_cons_of_pos hd, List.length_cons,
              List.drop_succ_cons] at hlt ⊢
            exact ih (by omega)
          · intro c r hs
            rw [List.take_succ_cons, List.takeWhile_cons_of_neg hd, List.length_nil,
              List.drop_zero] at hs
            obtain ⟨rfl, -⟩ := List.cons.inj hs
            exact Bool.not_eq_true _ ▸ hd

/-- Nothing is skipped in front of a digit. -/
theorem skipBlank_digits (hne : ds ≠ []) (hall : AllDigits ds) :
    skipBlank (ds ++ rest) = ds ++ rest := by
  obtain ⟨c, cs, rfl⟩ := List.exists_cons_of_ne_nil hne
  rw [List.cons_append, skipBlank_cons, isBlank_of_isDigit (hall c (by simp)),
    if_neg Bool.false_ne_true]

theorem readNumber_eq_some_iff :
    readNumber width s = some (n, rest) ↔ NumberAt width s n rest := by
  constructor
  · intro h
    unfold readNumber at h
    simp only [Option.ite_none_left_eq_some, Option.some.injEq, Prod.mk.injEq,
      List.isEmpty_iff] at h
    obtain ⟨hne, rfl, rfl⟩ := h
    obtain ⟨w, hw, hs⟩ := exists_blank_skipBlank s
    have hdigits := List.takeWhile_prefix isDigit (l := (skipBlank s).take width)
    have hfront := hdigits.trans (List.take_prefix width (skipBlank s))
    have hall : AllDigits (((skipBlank s).take width).takeWhile isDigit) :=
      List.all_eq_true.mp List.all_takeWhile
    have hread := NumberAt.mk hw hne (hdigits.length_le.trans (List.length_take_le _ _)) hall
      digitless_drop_takeWhile
    rwa [List.prefix_iff_eq_append.mp hfront, ← hs] at hread
  · intro h
    obtain @⟨w, ds, _, hw, hne, hle, hall, hrest⟩ := h
    rw [readNumber, skipBlank_append hw, skipBlank_digits hne hall]
    simp only [takeWhile_take_digits hle hall hrest, List.isEmpty_iff, hne, if_false,
      List.drop_left]

theorem readDigits_eq_some_iff :
    readDigits s = some (n, rest) ↔
      ∃ ds, s = ds ++ rest ∧ ds ≠ [] ∧ AllDigits ds ∧ Digitless rest ∧ natOfDigits ds = n := by
  constructor
  · intro h
    unfold readDigits at h
    simp only [Option.ite_none_left_eq_some, Option.some.injEq, Prod.mk.injEq,
      List.isEmpty_iff] at h
    obtain ⟨hne, rfl, rfl⟩ := h
    refine ⟨_, (spanDigits_append s).symm, hne, allDigits_spanDigits s, ?_, rfl⟩
    intro c r hs
    have hnot := List.head?_dropWhile_not isDigit s
    rw [show s.dropWhile isDigit = c :: r from hs] at hnot
    exact hnot
  · intro ⟨ds, hs, hne, hall, hrest, hn⟩
    subst hs hn
    simp [readDigits, spanDigits_digits hall hrest, hne]

theorem readNumber_skipBlank : readNumber width (skipBlank s) = readNumber width s := by
  simp only [readNumber, skipBlank_skipBlank]

/-- What a number starts with is no sign. -/
theorem NumberAt.exists_digit (h : NumberAt width s n rest) :
    ∃ c r, skipBlank s = c :: r ∧ isDigit c = true := by
  obtain @⟨w, ds, _, hw, hne, -, hall, -⟩ := h
  rw [skipBlank_append hw, skipBlank_digits hne hall]
  obtain ⟨c, cs, rfl⟩ := List.exists_cons_of_ne_nil hne
  exact ⟨c, cs ++ rest, rfl, hall c (by simp)⟩

theorem map_read_eq_some_iff {read : List Char → Option (Nat × List Char)} {f : Nat → Int}
    {year : Int} :
    (read s).map (fun (n, rest) => (f n, rest)) = some (year, rest) ↔
      ∃ n, read s = some (n, rest) ∧ f n = year := by
  simp only [Option.map_eq_some_iff, Prod.exists, Prod.mk.injEq]
  constructor
  · intro ⟨n, _, hread, hn, hrest⟩
    exact ⟨n, hrest ▸ hread, hn⟩
  · intro ⟨n, hread, hn⟩
    exact ⟨n, rest, hread, hn, rfl⟩

theorem readYear_eq_some_iff {year : Int} :
    readYear s = some (year, rest) ↔ YearAt s year rest := by
  constructor
  · intro h
    unfold readYear at h
    obtain ⟨w, hw, hs⟩ := exists_blank_skipBlank s
    split at h
    · next r hplus =>
        obtain ⟨n, hread, rfl⟩ := map_read_eq_some_iff.mp h
        obtain ⟨ds, rfl, hne, hall, hrest, rfl⟩ := readDigits_eq_some_iff.mp hread
        rw [hs, hplus]
        exact .plus hw hne hall hrest
    · next r hminus =>
        obtain ⟨n, hread, rfl⟩ := (map_read_eq_some_iff (f := fun n => -(n : Int))).mp h
        obtain ⟨ds, rfl, hne, hall, hrest, rfl⟩ := readDigits_eq_some_iff.mp hread
        rw [hs, hminus]
        exact .minus hw hne hall hrest
    · obtain ⟨n, hread, rfl⟩ := map_read_eq_some_iff.mp h
      rw [readNumber_skipBlank] at hread
      exact .plain (readNumber_eq_some_iff.mp hread)
  · intro h
    unfold readYear
    cases h with
    | plain h =>
        -- the text starts with a digit, so neither of the signs is there
        obtain ⟨c, r, hskip, hc⟩ := h.exists_digit
        split
        · next hplus =>
            rw [hskip] at hplus
            obtain ⟨rfl, -⟩ := List.cons.inj hplus
            cases hc
        · next hminus =>
            rw [hskip] at hminus
            obtain ⟨rfl, -⟩ := List.cons.inj hminus
            cases hc
        · rw [readNumber_skipBlank, readNumber_eq_some_iff.mpr h]
          rfl
    | plus hw hne hall hrest =>
        rw [skipBlank_append hw, skipBlank_cons, if_neg (by decide)]
        exact map_read_eq_some_iff.mpr
          ⟨_, readDigits_eq_some_iff.mpr ⟨_, rfl, hne, hall, hrest, rfl⟩, rfl⟩
    | minus hw hne hall hrest =>
        rw [skipBlank_append hw, skipBlank_cons, if_neg (by decide)]
        exact (map_read_eq_some_iff (f := fun n => -(n : Int))).mpr
          ⟨_, readDigits_eq_some_iff.mpr ⟨_, rfl, hne, hall, hrest, rfl⟩, rfl⟩

theorem readColon_eq_some_iff : readColon s = some rest ↔ s = ':' :: rest := by
  unfold readColon
  split
  · simp
  · next hne =>
      simp only [reduceCtorEq, false_iff]
      exact hne rest

theorem date_read_eq_some_iff {d : Date} :
    Date.read s = some d ↔
      ∃ year month day, DateText s year month day ∧ Date.ofCivil? year month day = some d := by
  simp only [Date.read, Option.bind_eq_bind, Option.bind_eq_some_iff, Prod.exists,
    readYear_eq_some_iff, readNumber_eq_some_iff, Option.ite_none_right_eq_some, List.isEmpty_iff,
    DateText]
  constructor
  · intro ⟨year, s1, hyear, month, s2, hmonth, day, s3, hday, hend, hd⟩
    exact ⟨year, month, day, ⟨s1, s2, hyear, hmonth, hend ▸ hday⟩, hd⟩
  · intro ⟨year, month, day, ⟨s1, s2, hyear, hmonth, hday⟩, hd⟩
    exact ⟨year, s1, hyear, month, s2, hmonth, day, [], hday, rfl, hd⟩

theorem clock_read_eq_some_iff {c : Clock} :
    Clock.read s = some c ↔
      ∃ hour minute second, ClockText s hour minute second ∧
        Clock.ofHms? hour minute second = some c := by
  simp only [Clock.read, Option.bind_eq_bind, Option.bind_eq_some_iff, Prod.exists,
    readColon_eq_some_iff, readNumber_eq_some_iff, Option.ite_none_right_eq_some, List.isEmpty_iff,
    ClockText]
  constructor
  · intro ⟨hour, s1, hhour, s2, hs1, minute, s3, hminute, s4, hs3, second, s5, hsecond, hend, hc⟩
    subst hs1 hs3 hend
    exact ⟨hour, minute, second, ⟨s2, s4, hhour, hminute, hsecond⟩, hc⟩
  · intro ⟨hour, minute, second, ⟨s1, s2, hhour, hminute, hsecond⟩, hc⟩
    exact ⟨hour, _, hhour, s1, rfl, minute, _, hminute, s2, rfl, second, [], hsecond, rfl, hc⟩

/-! ### The form that is asked for -/

/-- So many digits and nothing else. -/
def DigitRun (width : Nat) (s : List Char) : Prop := s.length = width ∧ AllDigits s

theorem DigitRun.digits (h : DigitRun width s) : Digits width s (natOfDigits s) :=
  ⟨h.1, h.2, rfl⟩

theorem DigitRun.append {v w : Nat} {s t : List Char} (hs : DigitRun v s) (ht : DigitRun w t) :
    DigitRun (v + w) (s ++ t) := by
  refine ⟨by rw [List.length_append, hs.1, ht.1], fun c hc => ?_⟩
  rcases List.mem_append.mp hc with hc | hc
  · exact hs.2 c hc
  · exact ht.2 c hc

theorem DigitRun.exists_append {v w : Nat} (h : DigitRun (v + w) s) :
    ∃ x y, s = x ++ y ∧ DigitRun v x ∧ DigitRun w y := by
  refine ⟨s.take v, s.drop v, (List.take_append_drop v s).symm, ⟨?_, ?_⟩, ⟨?_, ?_⟩⟩
  · rw [List.length_take, h.1]
    omega
  · exact fun c hc => h.2 c (List.mem_of_mem_take hc)
  · rw [List.length_drop, h.1]
    omega
  · exact fun c hc => h.2 c (List.mem_of_mem_drop hc)

/-- A date as `YYYYMMDD`. -/
def CompactForm (s : List Char) : Prop := DigitRun 8 s

/-- A time of day as `HH:MM:SS`. -/
inductive ClockForm : List Char → Prop
  | mk {h m s : List Char} : DigitRun 2 h → DigitRun 2 m → DigitRun 2 s →
      ClockForm (h ++ ':' :: (m ++ ':' :: s))

/-- A number that fills its place is read whatever follows. -/
theorem numberAt_digits (h : Digits width ds n) (hwidth : 0 < width) (rest : List Char) :
    NumberAt width (ds ++ rest) n rest := by
  have hne := h.ne_nil hwidth
  obtain ⟨rfl, hall, rfl⟩ := h
  exact .mk (w := []) rfl hne (Nat.le_refl _) hall fun hlt => absurd hlt (Nat.lt_irrefl _)

theorem numberAt_digits_nil (h : Digits width ds n) (hwidth : 0 < width) :
    NumberAt width ds n [] := by
  simpa using numberAt_digits h hwidth []

theorem date_read_digits {y m d : List Char} {year month day : Nat} (hy : Digits 4 y year)
    (hm : Digits 2 m month) (hd : Digits 2 d day) :
    Date.read (y ++ (m ++ d)) = Date.ofCivil? year month day := by
  have hyear := readYear_eq_some_iff.mpr
    (.plain (numberAt_digits hy (by decide) (m ++ d)))
  have hmonth := readNumber_eq_some_iff.mpr (numberAt_digits hm (by decide) d)
  have hday := readNumber_eq_some_iff.mpr (numberAt_digits_nil hd (by decide))
  simp [Date.read, hyear, hmonth, hday]

theorem clock_read_digits {h m s : List Char} {hour minute second : Nat} (hh : Digits 2 h hour)
    (hm : Digits 2 m minute) (hs : Digits 2 s second) :
    Clock.read (h ++ ':' :: (m ++ ':' :: s)) = Clock.ofHms? hour minute second := by
  have hhour := readNumber_eq_some_iff.mpr
    (numberAt_digits hh (by decide) (':' :: (m ++ ':' :: s)))
  have hminute := readNumber_eq_some_iff.mpr (numberAt_digits hm (by decide) (':' :: s))
  have hsecond := readNumber_eq_some_iff.mpr (numberAt_digits_nil hs (by decide))
  simp [Clock.read, hhour, hminute, hsecond, readColon]

end Written

/-! ### How dates and times of day are written -/

namespace Date

open Written Timestamp

/-- A date whose year has four digits. -/
def HasFourDigitYear (d : Date) : Prop := 0 ≤ d.civil.1 ∧ d.civil.1 ≤ 9999

theorem compactText_toList (d : Date) :
    d.compactText.toList = (padded 4 d.civil.1.toNat).toList ++
      ((padded 2 d.civil.2.1).toList ++ (padded 2 d.civil.2.2).toList) := by
  simp [compactText]

/-- In the form that is asked for, a text is read as the date that is written so. -/
theorem read_compactForm_iff {s : List Char} {d : Date} :
    Date.read s = some d ∧ CompactForm s ↔ d.HasFourDigitYear ∧ s = d.compactText.toList := by
  constructor
  · intro ⟨hread, hform⟩
    obtain ⟨y, rest, rfl, hy, hrest⟩ := DigitRun.exists_append (v := 4) (w := 4) hform
    obtain ⟨m, t, rfl, hm, ht⟩ := DigitRun.exists_append (v := 2) (w := 2) hrest
    rw [date_read_digits hy.digits hm.digits ht.digits] at hread
    obtain ⟨-, -, hcivil⟩ := ofCivil?_eq_some_iff.mp hread
    have hyear := hy.digits.lt
    refine ⟨?_, ?_⟩
    · rw [HasFourDigitYear, hcivil]
      omega
    · rw [compactText_toList, hcivil, Int.toNat_natCast,
        ← ((digits_iff (by decide)).mp hy.digits).2, ← ((digits_iff (by decide)).mp hm.digits).2,
        ← ((digits_iff (by decide)).mp ht.digits).2]
  · intro ⟨⟨hlow, hhigh⟩, hs⟩
    obtain ⟨-, hmonth, -, hday⟩ := isCivil_civilOfDay d.day
    have hday' := (le_daysInMonth_iff.mp hday).1
    have hy : Digits 4 (padded 4 d.civil.1.toNat).toList d.civil.1.toNat :=
      digits_padded (by decide) (by omega)
    have hm : Digits 2 (padded 2 d.civil.2.1).toList d.civil.2.1 :=
      digits_padded (by decide) (Nat.lt_of_le_of_lt hmonth (by decide))
    have ht : Digits 2 (padded 2 d.civil.2.2).toList d.civil.2.2 :=
      digits_padded (by decide) (Nat.lt_of_le_of_lt hday' (by decide))
    rw [hs, compactText_toList]
    refine ⟨?_, DigitRun.append ⟨hy.1, hy.2.1⟩ (.append ⟨hm.1, hm.2.1⟩ ⟨ht.1, ht.2.1⟩)⟩
    rw [date_read_digits hy hm ht, Int.toNat_of_nonneg hlow, ofCivil?_eq_some_iff]
    exact ⟨isCivil_civilOfDay d.day, inRange_of_year hlow hhigh, rfl⟩

end Date

namespace Clock

open Written Timestamp

/-- A time of day that is written in full as hour, minute and second: a second as it begins. -/
def OnSecond (c : Clock) : Prop :=
  c.nanos = 0 ∨ c.nanos = nanosPerSecond ∧ c.second % 60 = 59

theorem minute_lt (c : Clock) : c.minute < 60 := Nat.mod_lt _ (by decide)

theorem shownSecond_le (c : Clock) : c.shownSecond ≤ 60 := by
  unfold shownSecond
  split <;> omega

/-- A time of day is made of its hour, its minute and the second that it shows. -/
theorem ofHms?_eq_some_iff {hour minute second : Nat} {c : Clock} :
    ofHms? hour minute second = some c ↔
      c.OnSecond ∧ c.hour = hour ∧ c.minute = minute ∧ c.shownSecond = second := by
  unfold ofHms? OnSecond
  constructor
  · intro h
    split at h
    · obtain rfl := Option.some.inj h
      simp [Clock.hour, Clock.minute, shownSecond, nanosPerSecond]
      omega
    · split at h
      · obtain rfl := Option.some.inj h
        simp [Clock.hour, Clock.minute, shownSecond, nanosPerSecond]
        omega
      · cases h
  · intro h
    obtain ⟨hon, rfl, rfl, rfl⟩ := h
    have hmade : 3600 * c.hour + 60 * c.minute + c.second % 60 = c.second := by
      unfold Clock.hour Clock.minute
      omega
    have hhour := c.hour_lt
    have hminute := c.minute_lt
    rcases hon with hnanos | ⟨hnanos, hlast⟩
    · have hshown : c.shownSecond = c.second % 60 := by
        simp [shownSecond, hnanos, nanosPerSecond]
      rw [dif_pos (by omega), Option.some.injEq]
      exact Clock.ext (by dsimp only; omega) hnanos.symm
    · have hshown : c.shownSecond = 60 := by
        simp [shownSecond, hnanos, hlast]
      rw [dif_neg (by omega), dif_pos (by omega), Option.some.injEq]
      exact Clock.ext (by dsimp only; omega) hnanos.symm

theorem text_toList (c : Clock) :
    c.text.toList = (padded 2 c.hour).toList ++ ':' :: ((padded 2 c.minute).toList ++
      ':' :: (padded 2 c.shownSecond).toList) := by
  simp [text, shortText]

/-- In the form that is asked for, a text is read as the time of day that is written so. -/
theorem read_clockForm_iff {s : List Char} {c : Clock} :
    Clock.read s = some c ∧ ClockForm s ↔ c.OnSecond ∧ s = c.text.toList := by
  constructor
  · intro ⟨hread, hform⟩
    obtain @⟨h, m, t, hh, hm, ht⟩ := hform
    rw [clock_read_digits hh.digits hm.digits ht.digits] at hread
    obtain ⟨hon, hhour, hminute, hsecond⟩ := ofHms?_eq_some_iff.mp hread
    refine ⟨hon, ?_⟩
    rw [text_toList, hhour, hminute, hsecond, ← ((digits_iff (by decide)).mp hh.digits).2,
      ← ((digits_iff (by decide)).mp hm.digits).2, ← ((digits_iff (by decide)).mp ht.digits).2]
  · intro ⟨hon, hs⟩
    have hh : Digits 2 (padded 2 c.hour).toList c.hour :=
      digits_padded (by decide) (Nat.lt_trans c.hour_lt (by decide))
    have hm : Digits 2 (padded 2 c.minute).toList c.minute :=
      digits_padded (by decide) (Nat.lt_trans c.minute_lt (by decide))
    have ht : Digits 2 (padded 2 c.shownSecond).toList c.shownSecond :=
      digits_padded (by decide) (Nat.lt_of_le_of_lt c.shownSecond_le (by decide))
    rw [hs, text_toList]
    refine ⟨?_, .mk ⟨hh.1, hh.2.1⟩ ⟨hm.1, hm.2.1⟩ ⟨ht.1, ht.2.1⟩⟩
    rw [clock_read_digits hh hm ht, ofHms?_eq_some_iff]
    exact ⟨hon, rfl, rfl, rfl⟩

end Clock

namespace Timetable

open Written

/-- **Which texts are service dates and times of day.** A text is read as what it says. In the form
that is asked for, that is the date or the time of day that is written so, and no other text of that
form is read at all. -/
theorem reads_iff (text : String) :
    ((∀ d, serviceDate text = .ok d ↔ ∃ year month day,
        DateText text.toList year month day ∧ Date.ofCivil? year month day = some d) ∧
      ∀ d, serviceDate text = .ok d ∧ CompactForm text.toList ↔
        d.HasFourDigitYear ∧ text = d.compactText) ∧
    (∀ c, clockTime text = .ok c ↔ ∃ hour minute second,
        ClockText text.toList hour minute second ∧ Clock.ofHms? hour minute second = some c) ∧
      ∀ c, clockTime text = .ok c ∧ ClockForm text.toList ↔ c.OnSecond ∧ text = c.text := by
  have hdate : ∀ d, serviceDate text = .ok d ↔ Date.read text.toList = some d := by
    intro d
    unfold serviceDate
    cases Date.read text.toList <;> simp
  have hclock : ∀ c, clockTime text = .ok c ↔ Clock.read text.toList = some c := by
    intro c
    unfold clockTime
    cases Clock.read text.toList <;> simp
  simp only [hdate, hclock, String.ext_iff]
  exact ⟨⟨fun _ => date_read_eq_some_iff, fun _ => Date.read_compactForm_iff⟩,
    fun _ => clock_read_eq_some_iff, fun _ => Clock.read_clockForm_iff⟩

/-- A month and a day without their zeros say another day: the eleventh of January is read as the
first of November. A time of day without its zeros is taken as well. -/
theorem short_text_read :
    (serviceDate "2024111" = .ok ⟨20028⟩ ∧ (⟨20028⟩ : Date).compactText = "20241101" ∧
      ¬CompactForm "2024111".toList) ∧
    (∃ c, clockTime "8:5:3" = .ok c ∧ c.text = "08:05:03") ∧ ¬ClockForm "8:5:3".toList := by
  refine ⟨⟨by decide, by decide, fun h => absurd h.1 (by decide)⟩,
    ⟨⟨29103, 0, by decide⟩, by decide, by decide⟩, fun h => ?_⟩
  have hread : Clock.read "8:5:3".toList = some ⟨29103, 0, by decide⟩ := by decide
  have htext := (Clock.read_clockForm_iff.mp ⟨hread, h⟩).2
  exact absurd htext (by decide)

end Timetable

end RailWatch

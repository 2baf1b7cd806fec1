import Mathlib.Tactic.Ring
import RailWatch.Proofs.Json.Grammar
import RailWatch.Proofs.Outcome
import RailWatch.Settings
/-!
# RailWatch.Proofs.Settings.Number

Numbers in settings.

`WritesNumber` says how whole numbers are written, of whatever size, and `SaysNumber` that a text is
such a number between blanks. A number is read digit by digit and given up as soon as it leaves its
type, and only then compared with the bounds of its setting. All the same it is the bounds that
count: as long as the type holds what lies within them, a setting is read exactly if it says a
number within its bounds (`Settings.readNumber_eq_ok_iff`).
-/

namespace RailWatch

open Text
open Json (AllDigits)

/-! ### Digits -/

namespace Text

/-- Digits move what was read before them to the left. -/
theorem foldl_digits (n : Nat) (ds : List Char) :
    ds.foldl (fun n c => 10 * n + digitValue c) n = n * 10 ^ ds.length + natOfDigits ds := by
  induction ds generalizing n with
  | nil => simp
  | cons c ds ih =>
      rw [natOfDigits, List.foldl_cons, List.foldl_cons, ih, ih (10 * 0 + _), List.length_cons]
      ring

theorem natOfDigits_cons (c : Char) (ds : List Char) :
    natOfDigits (c :: ds) = digitValue c * 10 ^ ds.length + natOfDigits ds := by
  rw [natOfDigits, List.foldl_cons, foldl_digits, Nat.mul_zero, Nat.zero_add]

theorem natOfDigits_append (ds es : List Char) :
    natOfDigits (ds ++ es) = natOfDigits ds * 10 ^ es.length + natOfDigits es := by
  rw [natOfDigits, List.foldl_append, foldl_digits]
  rfl

theorem isDigit_iff {c : Char} : isDigit c = true ↔ 48 ≤ c.toNat ∧ c.toNat ≤ 57 := by
  simp [isDigit, Char.le_def, UInt32.le_iff_toNat_le]

theorem digitValue_lt {c : Char} (h : isDigit c = true) : digitValue c < 10 := by
  have := isDigit_iff.mp h
  unfold digitValue
  omega

theorem natOfDigits_lt {ds : List Char} (h : AllDigits ds) : natOfDigits ds < 10 ^ ds.length := by
  induction ds with
  | nil => simp
  | cons c ds ih =>
      have hc := digitValue_lt (h c (by simp))
      have hds := ih fun d hd => h d (by simp [hd])
      have hscaled := Nat.mul_le_mul_right (10 ^ ds.length) (Nat.le_of_lt_succ hc)
      rw [natOfDigits_cons, List.length_cons, Nat.pow_succ]
      omega

theorem isBlank_of_isDigit {c : Char} (h : isDigit c = true) : isBlank c = false := by
  have := isDigit_iff.mp h
  simp [isBlank, inRanges, blankRanges]
  omega

theorem not_allDigits_cons {c : Char} {ds : List Char} (h : isDigit c = false) :
    ¬AllDigits (c :: ds) := by
  intro hall
  have hc := hall c (by simp)
  rw [h] at hc
  cases hc

end Text

/-! ### How numbers are written -/

/-- A whole number in digits, after a sign if one is wanted. -/
inductive WritesNumber : List Char → Int → Prop
  | plain {ds : List Char} : ds ≠ [] → AllDigits ds → WritesNumber ds (natOfDigits ds)
  | plus {ds : List Char} : ds ≠ [] → AllDigits ds → WritesNumber ('+' :: ds) (natOfDigits ds)
  | minus {ds : List Char} : ds ≠ [] → AllDigits ds → WritesNumber ('-' :: ds) (-natOfDigits ds)

/-- The text says the number: there is nothing but blanks around it. -/
def SaysNumber (text : String) (n : Int) : Prop :=
  ∃ front core back, text.toList = front ++ (core ++ back) ∧ isAllBlank front = true ∧
    isAllBlank back = true ∧ WritesNumber core n

variable {ds s : List Char} {n : Int}

theorem not_writesNumber_nil : ¬WritesNumber [] n := by
  rintro ⟨⟩
  contradiction

theorem writesNumber_plus_iff :
    WritesNumber ('+' :: ds) n ↔ ds ≠ [] ∧ AllDigits ds ∧ n = natOfDigits ds := by
  constructor
  · rintro (⟨-, hall⟩ | ⟨hne, hall⟩)
    · exact absurd hall (not_allDigits_cons (by decide))
    · exact ⟨hne, hall, rfl⟩
  · rintro ⟨hne, hall, rfl⟩
    exact .plus hne hall

theorem writesNumber_minus_iff :
    WritesNumber ('-' :: ds) n ↔ ds ≠ [] ∧ AllDigits ds ∧ n = -natOfDigits ds := by
  constructor
  · rintro (⟨-, hall⟩ | _ | ⟨hne, hall⟩)
    · exact absurd hall (not_allDigits_cons (by decide))
    · exact ⟨hne, hall, rfl⟩
  · rintro ⟨hne, hall, rfl⟩
    exact .minus hne hall

/-- Without a sign there are digits only. -/
theorem writesNumber_plain_iff (hplus : ∀ rest, s ≠ '+' :: rest)
    (hminus : ∀ rest, s ≠ '-' :: rest) :
    WritesNumber s n ↔ s ≠ [] ∧ AllDigits s ∧ n = natOfDigits s := by
  constructor
  · rintro (⟨hne, hall⟩ | _ | _)
    · exact ⟨hne, hall, rfl⟩
    · exact absurd rfl (hplus _)
    · exact absurd rfl (hminus _)
  · rintro ⟨hne, hall, rfl⟩
    exact .plain hne hall

/-- No blanks are within a number. -/
theorem WritesNumber.not_blank (h : WritesNumber s n) {c : Char} (hc : c ∈ s) :
    isBlank c = false := by
  cases h with
  | plain _ hall => exact isBlank_of_isDigit (hall c hc)
  | plus _ hall =>
      rcases List.mem_cons.mp hc with rfl | hc
      · decide
      · exact isBlank_of_isDigit (hall c hc)
  | minus _ hall =>
      rcases List.mem_cons.mp hc with rfl | hc
      · decide
      · exact isBlank_of_isDigit (hall c hc)

/-! ### Blanks around a number -/

theorem isAllBlank_eq_false_iff : isAllBlank s = false ↔ ∃ c ∈ s, isBlank c = false := by
  simp [isAllBlank]

theorem skipBlank_of_not_blank (h : ∀ c ∈ s, isBlank c = false) : skipBlank s = s := by
  cases s with
  | nil => rfl
  | cons c s => simp [skipBlank_cons, h c]

theorem skipBlank_append {w : List Char} (h : isAllBlank w = true) (s : List Char) :
    skipBlank (w ++ s) = skipBlank s :=
  List.dropWhile_append_of_pos (List.all_eq_true.mp h)

/-- Trimming takes away the blanks around a text without blanks. -/
theorem trim_eq {front back : List Char} (hfront : isAllBlank front = true)
    (hback : isAllBlank back = true) (hs : ∀ c ∈ s, isBlank c = false) :
    trim (front ++ (s ++ back)) = s := by
  have hback' : isAllBlank back.reverse = true := by simpa [isAllBlank] using hback
  rw [trim, skipBlank_append hfront]
  cases s with
  | nil =>
      -- nothing but blanks, of which none is left for the second skip
      have hall : skipBlank back = [] := by simpa using skipBlank_append hback []
      simp [hall]
  | cons c s =>
      rw [List.cons_append, skipBlank_cons, hs c (by simp), if_neg Bool.false_ne_true,
        ← List.cons_append, List.reverse_append, skipBlank_append hback',
        skipBlank_of_not_blank fun d hd => hs d (List.mem_reverse.mp hd), List.reverse_reverse]

theorem exists_blank_skipBlank (s : List Char) :
    ∃ w, isAllBlank w = true ∧ s = w ++ skipBlank s :=
  ⟨s.takeWhile isBlank, List.all_takeWhile, List.takeWhile_append_dropWhile.symm⟩

/-- Trimming takes away nothing but blanks. -/
theorem exists_blank_trim (s : List Char) :
    ∃ front back, s = front ++ (trim s ++ back) ∧ isAllBlank front = true ∧
      isAllBlank back = true := by
  obtain ⟨front, hfront, hs⟩ := exists_blank_skipBlank s
  obtain ⟨back, hback, hrest⟩ := exists_blank_skipBlank (skipBlank s).reverse
  refine ⟨front, back.reverse, ?_, hfront, by simpa [isAllBlank] using hback⟩
  have hrest' := congrArg List.reverse hrest
  rw [List.reverse_reverse, List.reverse_append] at hrest'
  rw [trim, ← hrest', ← hs]

/-- A text says what is written in it after trimming. -/
theorem saysNumber_iff {text : String} : SaysNumber text n ↔ WritesNumber (trim text.toList) n := by
  constructor
  · rintro ⟨front, core, back, htext, hfront, hback, hcore⟩
    rwa [htext, trim_eq hfront hback fun c hc => hcore.not_blank hc]
  · intro h
    obtain ⟨front, back, htext, hfront, hback⟩ := exists_blank_trim text.toList
    exact ⟨front, _, back, htext, hfront, hback, h⟩

/-! ### Reading a number of a type -/

namespace IntegerType

/-- Digits are given up as soon as they exceed the limit, and what they write never gets smaller
again: they are read exactly if what they write in the end is within the limit. -/
theorem readUpTo_eq_ok_iff {limit k m : Nat} {excess : IntegerError} (h : k ≤ limit) :
    readUpTo limit excess k ds = .ok m ↔
      AllDigits ds ∧ k * 10 ^ ds.length + natOfDigits ds = m ∧ m ≤ limit := by
  induction ds generalizing k with
  | nil =>
      simp only [readUpTo, Except.ok.injEq, List.length_nil, Nat.pow_zero, Nat.mul_one,
        natOfDigits_nil, Nat.add_zero]
      exact ⟨fun hkm => ⟨nofun, hkm, hkm ▸ h⟩, fun h => h.2.1⟩
  | cons c ds ih =>
      have hvalue : k * 10 ^ (c :: ds).length + natOfDigits (c :: ds) =
          (10 * k + digitValue c) * 10 ^ ds.length + natOfDigits ds := by
        rw [natOfDigits_cons, List.length_cons]
        ring
      rw [readUpTo, hvalue]
      by_cases hc : isDigit c = true
      · by_cases hexcess : limit < 10 * k + digitValue c
        · have hpow : 0 < 10 ^ ds.length := Nat.pow_pos (by decide)
          have hle := Nat.le_mul_of_pos_right (10 * k + digitValue c) hpow
          simp only [hc, hexcess, if_true]
          constructor
          · exact nofun
          · rintro ⟨-, rfl, hm⟩
            omega
        · simp only [hc, hexcess, if_true, if_false]
          rw [ih (by omega)]
          simp [AllDigits, hc]
      · simp only [Bool.not_eq_true] at hc
        simp [hc, not_allDigits_cons hc]

theorem readMagnitude_eq_ok_iff {limit m : Nat} {excess : IntegerError} :
    readMagnitude limit excess ds = .ok m ↔
      ds ≠ [] ∧ AllDigits ds ∧ natOfDigits ds = m ∧ m ≤ limit := by
  unfold readMagnitude
  cases ds with
  | nil => simp
  | cons c ds => simpa using readUpTo_eq_ok_iff (Nat.zero_le limit)

theorem map_readMagnitude_eq_ok_iff {limit : Nat} {excess : IntegerError} {f : Nat → Int} :
    (readMagnitude limit excess ds).map f = .ok n ↔
      (ds ≠ [] ∧ AllDigits ds ∧ n = f (natOfDigits ds)) ∧ natOfDigits ds ≤ limit := by
  simp only [map_eq_ok_iff, readMagnitude_eq_ok_iff]
  constructor
  · rintro ⟨_, rfl, hne, hall, rfl, hle⟩
    exact ⟨⟨hne, hall, rfl⟩, hle⟩
  · rintro ⟨⟨hne, hall, rfl⟩, hle⟩
    exact ⟨_, rfl, hne, hall, rfl, hle⟩

/-- **A number is read if its type holds it.** Where the type has no negative numbers, no number may
have a minus sign, not even zero. -/
theorem read_eq_ok_iff {t : IntegerType} :
    t.read s = .ok n ↔
      WritesNumber s n ∧ (-t.down ≤ n ∧ n ≤ t.up) ∧ (s.head? = some '-' → t.down ≠ 0) := by
  unfold read
  split
  · simp [not_writesNumber_nil]
  · next rest =>
      rw [map_readMagnitude_eq_ok_iff, writesNumber_plus_iff]
      refine and_congr_right fun ⟨_, _, hn⟩ => ?_
      simp only [hn, Int.ofNat_eq_natCast, List.head?_cons]
      constructor
      · exact fun h => ⟨by omega, by simp⟩
      · rintro ⟨h, -⟩
        omega
  · next rest =>
      split
      · next hdown => simp [hdown]
      · next hdown =>
          rw [map_readMagnitude_eq_ok_iff, writesNumber_minus_iff]
          refine and_congr_right fun ⟨_, _, hn⟩ => ?_
          rw [hn]
          constructor
          · exact fun h => ⟨by omega, fun _ => hdown⟩
          · rintro ⟨h, -⟩
            omega
  · next hplus hminus =>
      rw [map_readMagnitude_eq_ok_iff, writesNumber_plain_iff hplus hminus]
      refine and_congr_right fun ⟨_, _, hn⟩ => ?_
      have hhead : s.head? ≠ some '-' := by
        rw [Ne, List.head?_eq_some_iff]
        rintro ⟨rest, rfl⟩
        exact hminus rest rfl
      simp only [hn, Int.ofNat_eq_natCast, hhead, false_imp_iff, and_true]
      omega

/-- The type has room for all numbers within the bounds. -/
structure Covers (type : IntegerType) (low high : Int) : Prop where
  low_le : -type.down ≤ low
  le_high : high ≤ type.up
  /-- Where no negative numbers are read, neither is a zero with a minus sign. -/
  pos : type.down = 0 → 0 < low

/-- Within bounds that are covered by the type, numbers are read whatever way they are written. -/
theorem Covers.read_eq_ok_iff {type : IntegerType} {low high : Int} (h : type.Covers low high)
    (hlow : low ≤ n) (hhigh : n ≤ high) : type.read s = .ok n ↔ WritesNumber s n := by
  have hdown := h.low_le
  have hup := h.le_high
  rw [IntegerType.read_eq_ok_iff, and_iff_left_iff_imp]
  intro hwrites
  refine ⟨by omega, fun hminus hzero => ?_⟩
  -- what has a minus sign is at most zero, and so out of bounds
  obtain ⟨rest, rfl⟩ := List.head?_eq_some_iff.mp hminus
  obtain ⟨-, -, rfl⟩ := writesNumber_minus_iff.mp hwrites
  have hpos := h.pos hzero
  omega

end IntegerType

/-! ### Settings that are numbers -/

namespace Settings

variable {env : Environment} {setting : Setting} {type : IntegerType} {default low high : Int}

/-- The number that a setting comes to: what it says if it is set, and the default only if it is
not. -/
def ComesTo (env : Environment) (setting : Setting) (default n : Int) : Prop :=
  (lookup env setting = none ∧ n = default) ∨
    ∃ text, lookup env setting = some text ∧ SaysNumber text n

/-- The setting, if it is set, says a number within these bounds. -/
def SaysWithin (env : Environment) (setting : Setting) (low high : Int) : Prop :=
  ∀ text, lookup env setting = some text → ∃ n, SaysNumber text n ∧ low ≤ n ∧ n ≤ high

/-- **A number is read as it is said.** Where the type has room for all numbers within the bounds, a
setting is read exactly if it says one of them; an unset one comes to its default. -/
theorem readNumber_eq_ok_iff (hcovers : type.Covers low high)
    (hdefault : low ≤ default ∧ default ≤ high) {n : Int} :
    readNumber env setting type default low high = .ok n ↔
      ComesTo env setting default n ∧ low ≤ n ∧ n ≤ high := by
  unfold readNumber ComesTo
  cases lookup env setting with
  | none =>
      simp only [Except.ok.injEq, true_and, reduceCtorEq, false_and, exists_false, or_false]
      constructor
      · rintro rfl
        exact ⟨rfl, hdefault⟩
      · exact fun h => h.1.symm
  | some text =>
      simp only [reduceCtorEq, false_and, false_or, Option.some.injEq, exists_eq_left']
      constructor
      · intro h
        split at h
        · cases h
        · next m hread =>
            split at h
            · next hwithin =>
                obtain rfl := Except.ok.inj h
                simp only [Bool.and_eq_true, decide_eq_true_eq] at hwithin
                have hwrites := (hcovers.read_eq_ok_iff hwithin.1 hwithin.2).mp hread
                exact ⟨saysNumber_iff.mpr hwrites, hwithin⟩
            · cases h
      · rintro ⟨hsaid, hlow, hhigh⟩
        rw [(hcovers.read_eq_ok_iff hlow hhigh).mpr (saysNumber_iff.mp hsaid)]
        simp [hlow, hhigh]

/-- Nothing else than an error of the setting itself can go wrong. -/
theorem readNumber_eq_error {e : SettingsError}
    (h : readNumber env setting type default low high = .error e) :
    ∃ flaw, e = .invalid setting flaw := by
  unfold readNumber at h
  split at h
  · cases h
  · split at h
    · exact ⟨_, (Except.error.inj h).symm⟩
    · split at h
      · cases h
      · exact ⟨_, (Except.error.inj h).symm⟩

theorem exists_readNumber_eq_ok_iff (hcovers : type.Covers low high)
    (hdefault : low ≤ default ∧ default ≤ high) :
    (∃ n, readNumber env setting type default low high = .ok n) ↔
      SaysWithin env setting low high := by
  simp only [readNumber_eq_ok_iff hcovers hdefault, SaysWithin, ComesTo]
  cases lookup env setting with
  | none => simpa using hdefault
  | some text => simp

end Settings
end RailWatch

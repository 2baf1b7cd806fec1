import RailWatch.Proofs.Json.Recognition
import RailWatch.Proofs.Settings.Number
/-!
# RailWatch.Proofs.Settings.Timestamp

How timestamps are written, and that exactly those are read.

`Writes w text i` is the grammar of timestamps: a date, a time of day and an offset from universal
time, each of which has to exist. The `Spelling` says which characters part the date and the time of
day and which stand for a minus sign. In RFC 3339 these are a `T` of either size and the hyphen,
`rfc3339`; besides, a second 60 has to be a leap second that was announced (`IsRfc3339`). The reader is
more lenient, `lenient`: it takes a blank for the `T`, the true minus sign for the hyphen, and a second
60 in any minute. That is all it takes beyond RFC 3339 (`isRfc3339_iff`).

Each part has its relation and one lemma for its reader, which says what is read and what is left
over. Most are equivalences. Only a fraction needs to know that neither a digit nor a point follows.
`read_eq_ok_iff` puts them together.
-/

namespace RailWatch.Timestamp

open Text
open Json (AllDigits Digitless Unpointed)

/-! ### The grammar -/

/-- So many digits, and the number that they write. -/
def Digits (width : Nat) (ds : List Char) (n : Nat) : Prop :=
  ds.length = width ∧ AllDigits ds ∧ natOfDigits ds = n

/-- A day of the calendar. -/
inductive DatePart : List Char → Date → Prop
  | mk {y m d : List Char} {year month day : Nat} {date : Date} : Digits 4 y year →
      Digits 2 m month → Digits 2 d day → Date.ofCivil? year month day = some date →
      DatePart (y ++ '-' :: (m ++ '-' :: d)) date

/-- A part of a second, if there is one, in nanoseconds. What is shorter than those is dropped. -/
inductive FractionPart : List Char → Nat → Prop
  | absent : FractionPart [] 0
  | point {ds : List Char} : ds ≠ [] → AllDigits ds →
      FractionPart ('.' :: ds) (natOfDigits ds * 10 ^ 9 / 10 ^ ds.length)

/-- A time of day. -/
inductive ClockPart : List Char → Clock → Prop
  | mk {h m s f : List Char} {hour minute second nanos : Nat} {clock : Clock} : Digits 2 h hour →
      Digits 2 m minute → Digits 2 s second → FractionPart f nanos →
      Clock.ofHms? hour minute second = some clock →
      ClockPart (h ++ ':' :: (m ++ ':' :: (s ++ f))) (withNanos clock nanos)

/-- Hours and minutes of an offset, in seconds. -/
inductive SizePart : List Char → Nat → Prop
  | mk {h m : List Char} {hour minute : Nat} : Digits 2 h hour → Digits 2 m minute → hour < 24 →
      minute < 60 → SizePart (h ++ ':' :: m) (hour * 3600 + minute * 60)

/-- An offset from universal time in seconds. -/
inductive OffsetPart (minus : List Char) : List Char → Int → Prop
  | universal {c : Char} : c = 'Z' ∨ c = 'z' → OffsetPart minus [c] 0
  | ahead {s : List Char} {size : Nat} : SizePart s size → OffsetPart minus ('+' :: s) size
  | behind {c : Char} {s : List Char} {size : Nat} : c ∈ minus → SizePart s size →
      OffsetPart minus (c :: s) (-size)

/-- What may differ in how timestamps are spelled. -/
structure Spelling where
  /-- The characters that may part date and time of day. -/
  partings : List Char
  /-- The characters that may stand for a minus sign. -/
  minus : List Char

/-- A timestamp. Its instant is what the clock shows less the offset. -/
inductive Writes (w : Spelling) : List Char → Instant → Prop
  | mk {d t z : List Char} {sep : Char} {date : Date} {clock : Clock} {offset : Int} :
      DatePart d date → sep ∈ w.partings → ClockPart t clock → OffsetPart w.minus z offset →
      Writes w (d ++ sep :: (t ++ z)) ⟨(⟨date, clock⟩ : Reading).seconds - offset, clock.nanos⟩

/-- The spelling of RFC 3339. -/
def rfc3339 : Spelling := ⟨['T', 't'], ['-']⟩

/-- The blank that may stand for a `T` where timestamps are read. -/
def blank : Char := ' '

/-- The spelling that is read. -/
def lenient : Spelling := ⟨['T', 't', blank], ['-', minusSign]⟩

/-- The text is a timestamp as they are read. -/
def IsTimestamp (s : List Char) : Prop := ∃ i, Writes lenient s i

/-- The text is a timestamp by RFC 3339, where a leap second was announced for the end of these
seconds. -/
def IsRfc3339 (announced : Int → Prop) (s : List Char) : Prop :=
  ∃ i, Writes rfc3339 s i ∧ (i.isLeap = true → announced i.seconds)

/-! ### Octets -/

theorem foldl_octets (n : Nat) (s : List Char) :
    s.foldl (fun n c => n + c.utf8Size) n = n + Utf8.byteLength s := by
  induction s generalizing n with
  | nil => rfl
  | cons c s ih =>
      rw [Utf8.byteLength, List.foldl_cons, List.foldl_cons, ih, ih (0 + _)]
      omega

theorem byteLength_cons (c : Char) (s : List Char) :
    Utf8.byteLength (c :: s) = c.utf8Size + Utf8.byteLength s := by
  rw [Utf8.byteLength, List.foldl_cons, foldl_octets, Nat.zero_add]

theorem length_le_byteLength (s : List Char) : s.length ≤ Utf8.byteLength s := by
  induction s with
  | nil => exact Nat.zero_le _
  | cons c s ih =>
      have hc := c.utf8Size_pos
      rw [byteLength_cons, List.length_cons]
      omega

theorem byteLength_digits {ds : List Char} (h : AllDigits ds) : Utf8.byteLength ds = ds.length := by
  induction ds with
  | nil => rfl
  | cons c ds ih =>
      have hc : c.utf8Size = 1 := by
        have hvalue : c.val ≤ 127 := by
          have hdigit := isDigit_iff.mp (h c (by simp))
          exact UInt32.le_iff_toNat_le.mpr (show c.toNat ≤ 127 by omega)
        simp [Char.utf8Size, hvalue]
      rw [byteLength_cons, ih fun d hd => h d (by simp [hd]), List.length_cons, hc, Nat.add_comm]

/-! ### Digits and separators -/

variable {s rest : List Char} {n width : Nat}

/-- A number of a fixed width is read if it is there. A text that is too short for it may have
enough octets all the same, but then they are not those of digits. -/
theorem number_eq_ok_iff :
    number width s = .ok (n, rest) ↔ ∃ ds, Digits width ds n ∧ s = ds ++ rest := by
  constructor
  · intro h
    unfold number at h
    split at h
    · cases h
    · next hlong =>
        split at h
        · next hall =>
            obtain ⟨rfl, rfl⟩ := Prod.mk.inj (Except.ok.inj h)
            have hall' : AllDigits (s.take width) := List.all_eq_true.mp hall
            refine ⟨s.take width, ⟨?_, hall', rfl⟩, (List.take_append_drop width s).symm⟩
            -- were there too few characters, they would be digits with an octet each
            by_contra hlength
            rw [List.length_take] at hlength
            rw [List.take_of_length_le (by omega)] at hall'
            have hoctets := byteLength_digits hall'
            omega
        · cases h
  · rintro ⟨ds, ⟨rfl, hall, rfl⟩, rfl⟩
    have hlong := length_le_byteLength (ds ++ rest)
    rw [List.length_append] at hlong
    rw [number, if_neg (by omega), List.take_left, List.drop_left,
      if_pos (List.all_eq_true.mpr hall)]

theorem oneOf_eq_ok_iff {allowed : List Char} :
    oneOf allowed s = .ok rest ↔ ∃ c ∈ allowed, s = c :: rest := by
  cases s with
  | nil => simp [oneOf]
  | cons c s =>
      simp only [oneOf]
      split <;> simp_all

theorem oneOf_singleton_eq_ok_iff {c : Char} : oneOf [c] s = .ok rest ↔ s = c :: rest := by
  simp [oneOf_eq_ok_iff]

/-! ### The parts -/

theorem date_eq_ok_iff {date' : Date} :
    date s = .ok (date', rest) ↔ ∃ d, DatePart d date' ∧ s = d ++ rest := by
  simp only [date, bind_eq_ok_iff, Prod.exists, number_eq_ok_iff, oneOf_singleton_eq_ok_iff]
  constructor
  · rintro ⟨year, _, ⟨y, hy, rfl⟩, _, rfl, month, _, ⟨m, hm, rfl⟩, _, rfl, day, _, ⟨d, hd, rfl⟩, h⟩
    split at h
    · next hcivil =>
        obtain ⟨rfl, rfl⟩ := Prod.mk.inj (Except.ok.inj h)
        exact ⟨_, .mk hy hm hd hcivil, by simp⟩
    · cases h
  · rintro ⟨_, ⟨hy, hm, hd, hcivil⟩, rfl⟩
    simp only [List.append_assoc, List.cons_append]
    exact ⟨_, _, ⟨_, hy, rfl⟩, _, rfl, _, _, ⟨_, hm, rfl⟩, _, rfl, _, _, ⟨_, hd, rfl⟩,
      by rw [hcivil]⟩

/-- The first nine digits of a fraction are nanoseconds. Those after them do not count. -/
theorem nanosOfFraction_eq {ds : List Char} (h : AllDigits ds) :
    nanosOfFraction ds = natOfDigits ds * 10 ^ 9 / 10 ^ ds.length := by
  show natOfDigits (ds.take 9) * 10 ^ (9 - (ds.take 9).length) = _
  rw [List.length_take]
  by_cases hlength : ds.length ≤ 9
  · have hpow : 10 ^ 9 = 10 ^ (9 - ds.length) * 10 ^ ds.length := by
      rw [← Nat.pow_add, Nat.sub_add_cancel hlength]
    rw [List.take_of_length_le hlength, Nat.min_eq_right hlength, hpow, ← Nat.mul_assoc,
      Nat.mul_div_cancel _ (Nat.pow_pos (by decide))]
  · -- the digits that are dropped are less than one nanosecond together
    have hdrop := natOfDigits_lt fun d hd => h d (List.mem_of_mem_drop (i := 9) hd)
    have hpow : 10 ^ ds.length = 10 ^ (ds.drop 9).length * 10 ^ 9 := by
      rw [← Nat.pow_add, List.length_drop, Nat.sub_add_cancel (by omega)]
    have hsplit := natOfDigits_append (ds.take 9) (ds.drop 9)
    rw [List.take_append_drop] at hsplit
    rw [Nat.min_eq_left (by omega), Nat.sub_self, Nat.pow_zero, Nat.mul_one, hsplit, hpow,
      Nat.mul_div_mul_right _ _ (Nat.pow_pos (by decide)), Nat.mul_comm (natOfDigits (ds.take 9)),
      Nat.mul_add_div (Nat.pow_pos (by decide)), Nat.div_eq_of_lt hdrop, Nat.add_zero]

theorem fractionPart_of_fraction {nanos : Nat} (h : fraction s = .ok (nanos, rest)) :
    ∃ f, FractionPart f nanos ∧ s = f ++ rest := by
  unfold fraction at h
  split at h
  · cases h
  · next s _ =>
      simp only at h
      split at h
      · cases h
      · next hne =>
          obtain ⟨rfl, rfl⟩ := Prod.mk.inj (Except.ok.inj h)
          have hall := Json.allDigits_spanDigits s
          refine ⟨'.' :: (spanDigits s).1, ?_, by rw [List.cons_append, spanDigits_append]⟩
          rw [nanosOfFraction_eq hall]
          exact .point (by simpa using hne) hall
  · obtain ⟨rfl, rfl⟩ := Prod.mk.inj (Except.ok.inj h)
    exact ⟨[], .absent, rfl⟩

theorem FractionPart.fraction {f : List Char} {nanos : Nat} (h : FractionPart f nanos)
    (hrest : Unpointed rest) : fraction (f ++ rest) = .ok (nanos, rest) := by
  cases h with
  | absent =>
      cases rest with
      | nil => rfl
      | cons c rest =>
          have hpoint := (hrest c rest rfl).2
          simp [Timestamp.fraction, hpoint]
  | @point ds hne hall =>
      have hspan := Json.spanDigits_digits hall hrest.digitless
      rw [← nanosOfFraction_eq hall]
      cases ds with
      | nil => exact absurd rfl hne
      | cons d ds =>
          rw [List.cons_append] at hspan
          simp [Timestamp.fraction, hspan]

/-- What is read of a time of day is one, and one is read as a whole where a fraction would end. -/
theorem clock_eq_ok_iff {clock' : Clock} (hrest : Unpointed rest) :
    clock s = .ok (clock', rest) ↔ ∃ t, ClockPart t clock' ∧ s = t ++ rest := by
  simp only [clock, bind_eq_ok_iff, Prod.exists, number_eq_ok_iff, oneOf_singleton_eq_ok_iff]
  constructor
  · rintro ⟨hour, _, ⟨h, hh, rfl⟩, _, rfl, minute, _, ⟨m, hm, rfl⟩, _, rfl, second, _,
      ⟨s, hs, rfl⟩, nanos, _, hfraction, hclock⟩
    split at hclock
    · next hhms =>
        obtain ⟨rfl, rfl⟩ := Prod.mk.inj (Except.ok.inj hclock)
        obtain ⟨f, hf, rfl⟩ := fractionPart_of_fraction hfraction
        exact ⟨_, .mk hh hm hs hf hhms, by simp⟩
    · cases hclock
  · rintro ⟨_, ⟨hh, hm, hs, hf, hhms⟩, rfl⟩
    simp only [List.append_assoc, List.cons_append]
    exact ⟨_, _, ⟨_, hh, rfl⟩, _, rfl, _, _, ⟨_, hm, rfl⟩, _, rfl, _, _, ⟨_, hs, rfl⟩, _, _,
      hf.fraction hrest, by rw [hhms]⟩

theorem offsetSize_eq_ok_iff {size : Nat} :
    offsetSize s = .ok (size, rest) ∧ size ≤ maxOffset ↔ ∃ z, SizePart z size ∧ s = z ++ rest := by
  simp only [offsetSize, bind_eq_ok_iff, Prod.exists, number_eq_ok_iff, oneOf_singleton_eq_ok_iff]
  constructor
  · rintro ⟨⟨hour, _, ⟨h, hh, rfl⟩, _, rfl, minute, _, ⟨m, hm, rfl⟩, hsize⟩, hmax⟩
    split at hsize
    · next hminute =>
        obtain ⟨rfl, rfl⟩ := Prod.mk.inj (Except.ok.inj hsize)
        unfold maxOffset at hmax
        exact ⟨_, .mk hh hm (by omega) hminute, by simp⟩
    · cases hsize
  · rintro ⟨_, ⟨hh, hm, hhour, hminute⟩, rfl⟩
    simp only [List.append_assoc, List.cons_append]
    unfold maxOffset
    exact ⟨⟨_, _, ⟨_, hh, rfl⟩, _, rfl, _, _, ⟨_, hm, rfl⟩, by rw [if_pos hminute]⟩, by omega⟩

theorem mem_minus_iff {c : Char} : c ∈ lenient.minus ↔ c = '-' ∨ c = minusSign := by
  simp [lenient]

theorem offset_eq_ok_iff {offset' : Int} :
    offset s = .ok (offset', rest) ∧ offset'.natAbs ≤ maxOffset ↔
      ∃ z, OffsetPart lenient.minus z offset' ∧ s = z ++ rest := by
  constructor
  · rintro ⟨h, hmax⟩
    unfold offset at h
    split at h
    · cases h
    · next c s =>
        split at h
        · next huniversal =>
            obtain ⟨rfl, rfl⟩ := Prod.mk.inj (Except.ok.inj h)
            exact ⟨[c], .universal (by simpa using huniversal), rfl⟩
        · split at h
          · next hsign =>
              simp only [bind_eq_ok_iff, Prod.exists] at h
              obtain ⟨size, _, hsize, hoffset⟩ := h
              obtain ⟨rfl, rfl⟩ := Prod.mk.inj (Except.ok.inj hoffset)
              by_cases hc : c = '+'
              · rw [if_pos hc] at hmax ⊢
                obtain ⟨z, hz, rfl⟩ := offsetSize_eq_ok_iff.mp ⟨hsize, by simpa using hmax⟩
                exact ⟨c :: z, hc ▸ .ahead hz, rfl⟩
              · rw [if_neg hc] at hmax ⊢
                obtain ⟨z, hz, rfl⟩ := offsetSize_eq_ok_iff.mp ⟨hsize, by simpa using hmax⟩
                have hminus : c ∈ lenient.minus := by simpa [mem_minus_iff, hc] using hsign
                exact ⟨c :: z, .behind hminus hz, rfl⟩
          · cases h
  · rintro ⟨_, h, rfl⟩
    cases h with
    | universal h => simp [offset, h]
    | @ahead z size hz =>
        have hread : offsetSize (z ++ rest) = .ok (size, rest) ∧ size ≤ maxOffset :=
          offsetSize_eq_ok_iff.mpr ⟨z, hz, rfl⟩
        simp [offset, hread]
    | @behind c z size hminus hz =>
        have hread : offsetSize (z ++ rest) = .ok (size, rest) ∧ size ≤ maxOffset :=
          offsetSize_eq_ok_iff.mpr ⟨z, hz, rfl⟩
        have hc : c ≠ 'Z' ∧ c ≠ 'z' ∧ c ≠ '+' ∧ (c = '-' ∨ c = minusSign) := by
          rcases mem_minus_iff.mp hminus with rfl | rfl <;> decide
        simp [offset, hread, hc]

theorem OffsetPart.unpointed {z : List Char} {offset' : Int}
    (h : OffsetPart lenient.minus z offset') : Unpointed z := by
  rintro c r rfl
  cases h with
  | universal h => rcases h with rfl | rfl <;> decide
  | ahead _ => decide
  | behind h _ =>
      rcases mem_minus_iff.mp h with rfl | rfl <;> decide

theorem Writes.length_le {w : Spelling} {i : Instant} (h : Writes w s i) :
    minLength ≤ s.length := by
  obtain ⟨⟨⟨hy, -⟩, ⟨hm, -⟩, ⟨hd, -⟩, -⟩, -, ⟨⟨hh, -⟩, ⟨hmin, -⟩, ⟨hsec, -⟩, -, -⟩, -⟩ := h
  simp only [List.length_append, List.length_cons, hy, hm, hd, hh, hmin, hsec, minLength]
  omega

/-- **Timestamps are read, and nothing else.** -/
theorem read_eq_ok_iff {i : Instant} : read s = .ok i ↔ Writes lenient s i := by
  constructor
  · intro h
    unfold read at h
    split at h
    · cases h
    · simp only [bind_eq_ok_iff, Prod.exists, date_eq_ok_iff, oneOf_eq_ok_iff] at h
      obtain ⟨date, _, ⟨d, hd, rfl⟩, _, ⟨sep, hsep, rfl⟩, clock, _, hclock, offset, left, hoffset,
        hend⟩ := h
      split at hend
      · cases hend
      · next hleft =>
          obtain rfl : left = [] := by simpa using hleft
          split at hend
          · cases hend
          · next hmax =>
              obtain rfl := Except.ok.inj hend
              obtain ⟨z, hz, rfl⟩ := offset_eq_ok_iff.mp ⟨hoffset, Nat.le_of_not_lt hmax⟩
              rw [List.append_nil] at hclock
              obtain ⟨t, ht, rfl⟩ := (clock_eq_ok_iff hz.unpointed).mp hclock
              exact .mk hd hsep ht hz
  · intro h
    have hlong := Nat.le_trans h.length_le (length_le_byteLength s)
    rw [read, if_neg (Nat.not_lt.mpr hlong)]
    obtain @⟨d, t, z, sep, date, clock, offset, hd, hsep, ht, hz⟩ := h
    obtain ⟨hoffset, hmax⟩ := offset_eq_ok_iff.mpr ⟨z, hz, (List.append_nil z).symm⟩
    simp only [bind_eq_ok_iff, Prod.exists, date_eq_ok_iff, oneOf_eq_ok_iff]
    refine ⟨_, _, ⟨d, hd, rfl⟩, _, ⟨sep, hsep, rfl⟩, _, _,
      (clock_eq_ok_iff hz.unpointed).mpr ⟨t, ht, rfl⟩, _, _, hoffset, ?_⟩
    rw [if_neg (by simp), if_neg (Nat.not_lt.mpr hmax)]
    rfl

/-! ### What is read beyond RFC 3339 -/

/-- What is written in one spelling is written in every spelling that has as much. -/
theorem Writes.mono {w w' : Spelling} (hpartings : ∀ c ∈ w.partings, c ∈ w'.partings)
    (hminus : ∀ c ∈ w.minus, c ∈ w'.minus) {i : Instant} (h : Writes w s i) : Writes w' s i := by
  obtain ⟨hd, hsep, ht, hz⟩ := h
  refine .mk hd (hpartings _ hsep) ht ?_
  cases hz with
  | universal hc => exact .universal hc
  | ahead hsize => exact .ahead hsize
  | behind hc hsize => exact .behind (hminus _ hc) hsize

/-- A character that is never found in a date, a time of day or the size of an offset. -/
structure IsForeign (c : Char) : Prop where
  digit : isDigit c = false
  hyphen : c ≠ '-'
  colon : c ≠ ':'
  point : c ≠ '.'

theorem isForeign_blank : IsForeign blank := by
  constructor <;> decide

theorem isForeign_minusSign : IsForeign minusSign := by
  constructor <;> decide

variable {c : Char}

theorem Digits.not_mem {ds : List Char} (hc : IsForeign c) (h : Digits width ds n) : c ∉ ds := by
  intro hmem
  exact absurd (h.2.1 c hmem) (by simp [hc.digit])

theorem DatePart.not_mem {date' : Date} (hc : IsForeign c) (h : DatePart s date') : c ∉ s := by
  obtain ⟨hy, hm, hd, -⟩ := h
  simp [hy.not_mem hc, hm.not_mem hc, hd.not_mem hc, hc.hyphen]

theorem FractionPart.not_mem {nanos : Nat} (hc : IsForeign c) (h : FractionPart s nanos) :
    c ∉ s := by
  cases h with
  | absent => exact List.not_mem_nil
  | @point ds hne hall =>
      have hds : Digits ds.length ds (natOfDigits ds) := ⟨rfl, hall, rfl⟩
      simp [hds.not_mem hc, hc.point]

theorem ClockPart.not_mem {clock' : Clock} (hc : IsForeign c) (h : ClockPart s clock') : c ∉ s := by
  obtain ⟨hh, hm, hs, hf, -⟩ := h
  simp [hh.not_mem hc, hm.not_mem hc, hs.not_mem hc, hf.not_mem hc, hc.colon]

theorem SizePart.not_mem {size : Nat} (hc : IsForeign c) (h : SizePart s size) : c ∉ s := by
  obtain ⟨hh, hm, -, -⟩ := h
  simp [hh.not_mem hc, hm.not_mem hc, hc.colon]

theorem OffsetPart.not_mem {minus : List Char} {offset' : Int} (hc : IsForeign c)
    (hsigns : c ≠ 'Z' ∧ c ≠ 'z' ∧ c ≠ '+') (hminus : c ∉ minus)
    (h : OffsetPart minus s offset') : c ∉ s := by
  cases h with
  | universal h => rcases h with rfl | rfl <;> simp [hsigns]
  | ahead hsize => simp [hsigns, hsize.not_mem hc]
  | @behind sign z size hsign hsize =>
      have hne : c ≠ sign := fun heq => hminus (heq ▸ hsign)
      simp [hne, hsize.not_mem hc]

theorem Writes.not_mem {w : Spelling} {i : Instant} (hc : IsForeign c)
    (hsigns : c ≠ 'Z' ∧ c ≠ 'z' ∧ c ≠ '+') (hpartings : c ∉ w.partings) (hminus : c ∉ w.minus)
    (h : Writes w s i) : c ∉ s := by
  obtain @⟨d, t, z, sep, date, clock, offset, hd, hsep, ht, hz⟩ := h
  have hne : c ≠ sep := fun heq => hpartings (heq ▸ hsep)
  simp [hd.not_mem hc, ht.not_mem hc, hz.not_mem hc hsigns hminus, hne]

/-- The blank and the true minus sign are all that is read beyond the spelling of RFC 3339. -/
theorem writes_rfc3339_iff {i : Instant} :
    Writes rfc3339 s i ↔ Writes lenient s i ∧ blank ∉ s ∧ minusSign ∉ s := by
  constructor
  · intro h
    refine ⟨h.mono (by simp +contextual [rfc3339, lenient]) (by simp [rfc3339, lenient]), ?_, ?_⟩
    · exact h.not_mem isForeign_blank (by decide) (by decide) (by decide)
    · exact h.not_mem isForeign_minusSign (by decide) (by decide) (by decide)
  · rintro ⟨⟨hd, hsep, ht, hz⟩, hblank, hminus⟩
    simp only [List.mem_append, List.mem_cons, not_or] at hblank hminus
    refine .mk hd ?_ ht ?_
    · have hne := hblank.2.1
      simp only [lenient, List.mem_cons, List.not_mem_nil, or_false] at hsep
      simp only [rfc3339, List.mem_cons, List.not_mem_nil, or_false]
      rcases hsep with hsep | hsep | hsep
      · exact .inl hsep
      · exact .inr hsep
      · exact absurd hsep.symm hne
    · cases hz with
      | universal hc => exact .universal hc
      | ahead hsize => exact .ahead hsize
      | behind hc hsize =>
          rcases mem_minus_iff.mp hc with rfl | rfl
          · exact .behind (List.mem_singleton_self _) hsize
          · exact absurd List.mem_cons_self hminus.2.2.2

/-- **What is read beyond RFC 3339.** A text that is read is a timestamp by RFC 3339 exactly if there
is neither a blank nor a true minus sign in it, and its second 60, if it has one, was announced. -/
theorem isRfc3339_iff {announced : Int → Prop} :
    IsRfc3339 announced s ↔
      ∃ i, Writes lenient s i ∧ blank ∉ s ∧ minusSign ∉ s ∧
        (i.isLeap = true → announced i.seconds) := by
  simp only [IsRfc3339, writes_rfc3339_iff, and_assoc]

end RailWatch.Timestamp

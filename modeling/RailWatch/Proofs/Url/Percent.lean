import RailWatch.Proofs.Text.Utf8
import RailWatch.Text.Digits
import RailWatch.Url.Percent
/-!
# RailWatch.Proofs.Url.Percent

What is left of a text that is percent-encoded for a path and decoded again.

A percent sign is not encoded. So a text comes back exactly if no percent sign in it has two digits
of base sixteen behind it, `HasEscape`; otherwise it comes back shorter
(`percentDecode_percentEncode_iff`).
-/

namespace RailWatch

open Text

/-! ### Characters of ASCII -/

namespace Text

/-- What holds of the first 128 characters, one by one, holds of all characters of ASCII. -/
theorem forall_ascii {P : Char → Prop} (h : ∀ n < 0x80, P (Char.ofNat n)) (c : Char)
    (hc : c.toNat < 0x80) : P c := by
  have hn := h c.toNat hc
  rwa [Char.ofNat_toNat] at hn

end Text

namespace Url

/-! ### A single octet -/

theorem inPath_of_le {b : UInt8} (h : 0x80 ≤ b.toNat) : inPath b = true := by
  have hlt : (0x7E : UInt8) < b := by
    rw [UInt8.lt_iff_toNat_lt]
    exact Nat.lt_of_lt_of_le (by decide) h
  simp [inPath, inQuery, inEveryPart, hlt]

/-- Digits of base sixteen stand in a path as they are. -/
theorem inPath_of_hexValue? : ∀ c : Char, c.toNat < 0x80 → (hexValue? c).isSome →
    inPath (UInt8.ofNat c.toNat) = false :=
  forall_ascii (by decide)

theorem lt_of_le_char {c d : Char} (h : c ≤ d) (hd : d.toNat < 0x80) : c.toNat < 0x80 :=
  Nat.lt_of_le_of_lt (UInt32.le_iff_toNat_le.mp (Char.le_def.mp h)) hd

theorem lt_of_hexValue? {c : Char} (h : (hexValue? c).isSome) : c.toNat < 0x80 := by
  unfold hexValue? at h
  simp only [Bool.and_eq_true, decide_eq_true_eq] at h
  split at h
  · next hc => exact lt_of_le_char hc.2 (by decide)
  · split at h
    · next hc => exact lt_of_le_char hc.2 (by decide)
    · split at h
      · next hc => exact lt_of_le_char hc.2 (by decide)
      · cases h

variable {c : Char} {s t : List Char}

theorem percentDecode_cons_of_ne (hc : c ≠ '%') :
    percentDecode (c :: t) = String.utf8EncodeChar c ++ percentDecode t := by
  rw [percentDecode.eq_def]
  split
  · next heq => cases heq
  · next heq =>
      obtain ⟨rfl, rfl⟩ := List.cons.inj heq
      split
      · exact absurd rfl hc
      · simp [Utf8.encode]

/-- Where no two digits follow a percent sign, it is left alone. -/
theorem percentDecode_percent_of_not
    (h : ∀ a b r, t = a :: b :: r → ¬((hexValue? a).isSome ∧ (hexValue? b).isSome)) :
    percentDecode ('%' :: t) = 0x25 :: percentDecode t := by
  rw [percentDecode.eq_def]
  split
  · next heq => cases heq
  · next heq =>
      obtain ⟨rfl, rfl⟩ := List.cons.inj heq
      split
      · next a b r _ =>
          have hnot := h a b r rfl
          split
          · next hx hy => exact absurd ⟨by rw [hx]; rfl, by rw [hy]; rfl⟩ hnot
          · rfl
      · rfl

/-- An octet in a path, encoded where it has to be. -/
def pathOctet (b : UInt8) : List Char :=
  if inPath b then percentOctet b else [Char.ofNat b.toNat]

/-- An octet is encoded by the two digits of its value, or it is the only one of a character. -/
theorem pathOctet_cases (b : UInt8) :
    (∃ x y, pathOctet b = ['%', x, y] ∧ hexValue? x = some (b.toNat / 16) ∧
      hexValue? y = some (b.toNat % 16)) ∨
    ∃ c, pathOctet b = [c] ∧ String.utf8EncodeChar c = [b] ∧ inPath b = false := by
  have hb := b.toNat_lt
  unfold pathOctet
  by_cases hpath : inPath b = true
  · have hdigit : ∀ n < 16, hexValue? n.digitChar.toUpper = some n := by decide
    rw [if_pos hpath, percentOctet, Nat.toDigits_of_lt_base (by omega),
      Nat.toDigits_of_lt_base (by omega)]
    exact .inl ⟨_, _, rfl, hdigit _ (by omega), hdigit _ (by omega)⟩
  · have hlt : b.toNat < 0x80 := Nat.lt_of_not_le fun hle => hpath (inPath_of_le hle)
    have hvalue : ∀ n < 0x80, (Char.ofNat n).toNat = n := by decide
    rw [if_neg hpath]
    refine .inr ⟨_, rfl, ?_, by simpa using hpath⟩
    rw [Utf8.utf8EncodeChar_ascii (by rw [hvalue _ hlt]; exact hlt), hvalue _ hlt,
      UInt8.ofNat_toNat]

/-- What ends a path does not stand in it. -/
theorem not_mem_pathOctet (b : UInt8) : '?' ∉ pathOctet b := by
  rcases pathOctet_cases b with ⟨x, y, hoctet, hx, hy⟩ | ⟨c, hoctet, hc, hpath⟩
  · rw [hoctet]
    have hdigit : hexValue? '?' = none := by decide
    have hne : ∀ {d : Char} {n : Nat}, hexValue? d = some n → '?' ≠ d := by
      intro d n hd heq
      rw [← heq, hdigit] at hd
      cases hd
    simp [hne hx, hne hy]
  · rw [hoctet, List.mem_singleton]
    intro hmark
    rw [← hmark, Utf8.utf8EncodeChar_ascii (by decide)] at hc
    rw [← (List.cons.inj hc).1] at hpath
    cases hpath

theorem not_mem_percentEncode (s : List Char) : '?' ∉ percentEncode inPath s := by
  intro hmem
  obtain ⟨b, -, hb⟩ := List.mem_flatMap.mp hmem
  exact not_mem_pathOctet b hb

theorem percentEncode_cons (c : Char) (s : List Char) :
    percentEncode inPath (c :: s) =
      (String.utf8EncodeChar c).flatMap pathOctet ++ percentEncode inPath s := by
  rw [percentEncode, Utf8.encode_cons, List.flatMap_append]
  rfl

theorem percentDecode_pathOctet {b : UInt8} (hb : b ≠ 0x25) (t : List Char) :
    percentDecode (pathOctet b ++ t) = b :: percentDecode t := by
  rcases pathOctet_cases b with ⟨x, y, hoctet, hx, hy⟩ | ⟨c, hoctet, hc, -⟩
  · rw [hoctet]
    simp only [List.cons_append, List.nil_append, percentDecode, hx, hy, Nat.div_add_mod,
      UInt8.ofNat_toNat]
  · have hne : c ≠ '%' := by
      intro hpercent
      rw [hpercent, Utf8.utf8EncodeChar_ascii (by decide)] at hc
      exact hb (List.cons.inj hc).1.symm
    rw [hoctet, List.singleton_append, percentDecode_cons_of_ne hne, hc]
    rfl

theorem percentDecode_octets {bs : List UInt8} (h : 0x25 ∉ bs) (t : List Char) :
    percentDecode (bs.flatMap pathOctet ++ t) = bs ++ percentDecode t := by
  induction bs with
  | nil => rfl
  | cons b bs ih =>
      have hb : b ≠ 0x25 := fun hb => h (by simp [hb])
      have hbs : 0x25 ∉ bs := fun hbs => h (by simp [hbs])
      rw [List.flatMap_cons, List.append_assoc, percentDecode_pathOctet hb, ih hbs]
      rfl

/-! ### A whole text -/

/-- Two digits of base sixteen follow a percent sign somewhere in the text. -/
inductive HasEscape : List Char → Prop
  | here {a b : Char} {s : List Char} : (hexValue? a).isSome → (hexValue? b).isSome →
      HasEscape ('%' :: a :: b :: s)
  | later {c : Char} {s : List Char} : HasEscape s → HasEscape (c :: s)

theorem HasEscape.mem (h : HasEscape s) : '%' ∈ s := by
  induction h with
  | here => exact List.mem_cons_self
  | later _ ih => exact List.mem_cons_of_mem _ ih

theorem percentDecode_encode_cons (hc : c ≠ '%') (s : List Char) :
    percentDecode (percentEncode inPath (c :: s)) =
      String.utf8EncodeChar c ++ percentDecode (percentEncode inPath s) := by
  rw [percentEncode_cons]
  refine percentDecode_octets (fun hmem => ?_) _
  rcases Nat.lt_or_ge c.toNat 0x80 with hlt | hle
  · rw [Utf8.utf8EncodeChar_ascii hlt, List.mem_singleton] at hmem
    have hvalue := congrArg UInt8.toNat hmem
    rw [UInt8.toNat_ofNat_of_lt' (Nat.lt_trans hlt (by decide))] at hvalue
    exact hc (Char.toNat_inj.mp hvalue.symm)
  · exact absurd (Utf8.le_of_mem_utf8EncodeChar hle hmem) (by decide)

theorem percentEncode_percent (s : List Char) :
    percentEncode inPath ('%' :: s) = '%' :: percentEncode inPath s := by
  rw [percentEncode_cons]
  rfl

/-- Digits of base sixteen are left as they are. -/
theorem percentEncode_hex (hc : (hexValue? c).isSome) (s : List Char) :
    percentEncode inPath (c :: s) = c :: percentEncode inPath s := by
  have hlt := lt_of_hexValue? hc
  have hpath := inPath_of_hexValue? c hlt hc
  rw [percentEncode_cons, Utf8.utf8EncodeChar_ascii hlt, List.flatMap_singleton, pathOctet, hpath,
    if_neg Bool.false_ne_true, UInt8.toNat_ofNat_of_lt' (Nat.lt_trans hlt (by decide)),
    Char.ofNat_toNat]
  rfl

/-- A digit of base sixteen at the start of what was encoded has been there before. -/
theorem exists_of_percentEncode_eq_cons (hc : (hexValue? c).isSome)
    (h : percentEncode inPath s = c :: t) : ∃ s', s = c :: s' ∧ percentEncode inPath s' = t := by
  cases s with
  | nil => cases h
  | cons d s =>
      rw [percentEncode_cons] at h
      rcases Nat.lt_or_ge d.toNat 0x80 with hlt | hle
      · rw [Utf8.utf8EncodeChar_ascii hlt, List.flatMap_singleton, pathOctet] at h
        by_cases hpath : inPath (UInt8.ofNat d.toNat) = true
        · rw [if_pos hpath] at h
          obtain ⟨rfl, -⟩ := List.cons.inj h
          cases hc
        · rw [if_neg hpath, UInt8.toNat_ofNat_of_lt' (Nat.lt_trans hlt (by decide)),
            Char.ofNat_toNat] at h
          obtain ⟨rfl, rfl⟩ := List.cons.inj h
          exact ⟨s, rfl, rfl⟩
      · obtain ⟨b, bs, hd⟩ := Utf8.exists_utf8EncodeChar_eq_cons d
        have hb := Utf8.le_of_mem_utf8EncodeChar hle (b := b) (by simp [hd])
        rw [hd, List.flatMap_cons, pathOctet, if_pos (inPath_of_le hb)] at h
        obtain ⟨rfl, -⟩ := List.cons.inj h
        cases hc

/-- The two ways to decode a percent sign that stands in the text: with the two digits behind it, or
by itself. -/
theorem percentDecode_percent (s : List Char) :
    (∃ a b s' x, s = a :: b :: s' ∧ (hexValue? a).isSome ∧ (hexValue? b).isSome ∧
      percentDecode (percentEncode inPath ('%' :: s)) =
        x :: percentDecode (percentEncode inPath s')) ∨
    (∀ a b s', s = a :: b :: s' → ¬((hexValue? a).isSome ∧ (hexValue? b).isSome)) ∧
      percentDecode (percentEncode inPath ('%' :: s)) =
        0x25 :: percentDecode (percentEncode inPath s) := by
  by_cases hescape : ∃ a b s', s = a :: b :: s' ∧ (hexValue? a).isSome ∧ (hexValue? b).isSome
  · obtain ⟨a, b, s', rfl, ha, hb⟩ := hescape
    obtain ⟨x, hx⟩ := Option.isSome_iff_exists.mp ha
    obtain ⟨y, hy⟩ := Option.isSome_iff_exists.mp hb
    refine .inl ⟨a, b, s', UInt8.ofNat (16 * x + y), rfl, ha, hb, ?_⟩
    rw [percentEncode_percent, percentEncode_hex ha, percentEncode_hex hb]
    simp only [percentDecode, hx, hy]
  · refine .inr ⟨fun a b s' hs h => hescape ⟨a, b, s', hs, h⟩, ?_⟩
    rw [percentEncode_percent]
    refine percentDecode_percent_of_not fun a b r hr ⟨ha, hb⟩ => ?_
    obtain ⟨s1, rfl, hs1⟩ := exists_of_percentEncode_eq_cons ha hr
    obtain ⟨s2, rfl, -⟩ := exists_of_percentEncode_eq_cons hb hs1
    exact hescape ⟨a, b, s2, rfl, ha, hb⟩

theorem percentDecode_percentEncode_of_not (h : ¬HasEscape s) :
    percentDecode (percentEncode inPath s) = Utf8.encode s := by
  induction s with
  | nil => rfl
  | cons c s ih =>
      have hrest := ih fun hs => h (.later hs)
      by_cases hc : c = '%'
      · subst hc
        rcases percentDecode_percent s with ⟨a, b, s', -, rfl, ha, hb, -⟩ | ⟨-, hdecode⟩
        · exact absurd (.here ha hb) h
        · rw [hdecode, hrest]
          rfl
      · rw [percentDecode_encode_cons hc, hrest]
        rfl

/-- Decoding never gives more than there was, and less where there is an escape. -/
theorem length_percentDecode_percentEncode (s : List Char) :
    (percentDecode (percentEncode inPath s)).length ≤ (Utf8.encode s).length ∧
      (HasEscape s → (percentDecode (percentEncode inPath s)).length < (Utf8.encode s).length) := by
  match s with
  | [] => exact ⟨Nat.le_refl _, nofun⟩
  | c :: s =>
      obtain ⟨hle, hlt⟩ := length_percentDecode_percentEncode s
      rw [Utf8.encode_cons, List.length_append, String.length_utf8EncodeChar]
      by_cases hc : c = '%'
      · subst hc
        rcases percentDecode_percent s with ⟨a, b, s', x, rfl, ha, hb, hdecode⟩ | ⟨hnot, hdecode⟩
        · -- three characters become one octet
          obtain ⟨hle', -⟩ := length_percentDecode_percentEncode s'
          rw [hdecode, Utf8.encode_cons, Utf8.encode_cons, List.length_append, List.length_append,
            String.length_utf8EncodeChar, String.length_utf8EncodeChar, List.length_cons]
          have ha := a.utf8Size_pos
          have hpercent := '%'.utf8Size_pos
          omega
        · rw [hdecode, List.length_cons]
          have hpercent := '%'.utf8Size_pos
          refine ⟨by omega, fun hescape => ?_⟩
          cases hescape with
          | here ha hb => exact absurd ⟨ha, hb⟩ (hnot _ _ _ rfl)
          | later hs =>
              have := hlt hs
              omega
      · rw [percentDecode_encode_cons hc, List.length_append, String.length_utf8EncodeChar]
        refine ⟨by omega, fun hescape => ?_⟩
        cases hescape with
        | here ha hb => exact absurd rfl hc
        | later hs =>
            have := hlt hs
            omega
termination_by s.length

/-- A text comes back from a path exactly if there is no escape in it. -/
theorem percentDecode_percentEncode_iff :
    percentDecode (percentEncode inPath s) = Utf8.encode s ↔ ¬HasEscape s := by
  constructor
  · intro h hescape
    have hlt := (length_percentDecode_percentEncode s).2 hescape
    rw [h] at hlt
    exact Nat.lt_irrefl _ hlt
  · exact percentDecode_percentEncode_of_not

/-! ### Forms -/

theorem inForm_of_plain : ∀ c : Char, c.toNat < 0x80 → isDigit c = true ∨ c = '-' →
    UInt8.ofNat c.toNat ≠ 0x20 ∧ inForm (UInt8.ofNat c.toNat) = false :=
  forall_ascii (by decide)

theorem lt_of_plain (h : isDigit c = true ∨ c = '-') : c.toNat < 0x80 := by
  rcases h with h | rfl
  · simp only [isDigit, Bool.and_eq_true, decide_eq_true_eq] at h
    exact lt_of_le_char h.2 (by decide)
  · decide

/-- Digits and hyphens stand in a form as they are. -/
theorem formEncode_eq_self (h : ∀ c ∈ s, isDigit c = true ∨ c = '-') : formEncode s = s := by
  induction s with
  | nil => rfl
  | cons c s ih =>
      have hplain := h c (by simp)
      have hlt := lt_of_plain hplain
      obtain ⟨hblank, hform⟩ := inForm_of_plain c hlt hplain
      have hrest := ih fun d hd => h d (by simp [hd])
      rw [formEncode, Utf8.encode_cons, Utf8.utf8EncodeChar_ascii hlt, List.flatMap_append,
        List.flatMap_singleton, if_neg hblank, hform, if_neg Bool.false_ne_true,
        UInt8.toNat_ofNat_of_lt' (Nat.lt_trans hlt (by decide)), Char.ofNat_toNat]
      exact congrArg (c :: ·) hrest

end Url

end RailWatch

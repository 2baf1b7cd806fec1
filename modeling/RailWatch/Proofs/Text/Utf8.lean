import RailWatch.Text.Utf8
/-!
# RailWatch.Proofs.Text.Utf8

Octets are read as a text exactly if they are how that text is written.

Nothing is lost where octets are divided into pieces (`octets_pieces`): what an unfinished character
has seen and what completes it are the octets of the character that comes out, which is kept from
one octet to the next as `Sound`. In the other direction the octets of a character are one piece
(`pieces_encode`). Both together are `decode?_eq_some_iff`.
-/

namespace RailWatch.Text.Utf8

/-! ### Octets of characters -/

section

variable {c : Char} {s t : List Char}

theorem encode_cons (c : Char) (s : List Char) :
    encode (c :: s) = String.utf8EncodeChar c ++ encode s := rfl

theorem utf8EncodeChar_ascii (h : c.toNat < 0x80) :
    String.utf8EncodeChar c = [UInt8.ofNat c.toNat] := by
  have hle : c.val.toNat ≤ 0x7F := Nat.le_of_lt_succ h
  simp only [String.utf8EncodeChar, if_pos hle]
  rfl

/-- No octet of a character beyond ASCII is one of ASCII. -/
theorem le_of_mem_utf8EncodeChar (h : 0x80 ≤ c.toNat) {b : UInt8}
    (hb : b ∈ String.utf8EncodeChar c) : 0x80 ≤ b.toNat := by
  have hlt : ¬c.val.toNat ≤ 0x7F := Nat.not_le_of_lt h
  simp only [String.utf8EncodeChar, if_neg hlt] at hb
  split at hb
  · simp only [List.mem_cons, List.not_mem_nil, or_false] at hb
    rcases hb with rfl | rfl <;> simp <;> omega
  · split at hb
    · simp only [List.mem_cons, List.not_mem_nil, or_false] at hb
      rcases hb with rfl | rfl | rfl <;> simp <;> omega
    · simp only [List.mem_cons, List.not_mem_nil, or_false] at hb
      rcases hb with rfl | rfl | rfl | rfl <;> simp <;> omega

theorem exists_utf8EncodeChar_eq_cons (c : Char) :
    ∃ b bs, String.utf8EncodeChar c = b :: bs :=
  List.exists_cons_of_ne_nil String.utf8EncodeChar_ne_nil

theorem length_encode_le (h : s.Sublist t) : (encode s).length ≤ (encode t).length := by
  induction h with
  | slnil => exact Nat.le_refl _
  | cons c _ ih =>
      rw [encode_cons, List.length_append]
      omega
  | cons_cons c _ ih =>
      rw [encode_cons, encode_cons, List.length_append, List.length_append]
      omega

/-- A part of a text that has as many octets is the whole. -/
theorem eq_of_sublist (h : s.Sublist t) (hlength : (encode t).length ≤ (encode s).length) :
    s = t := by
  induction h with
  | slnil => rfl
  | @cons s t c h ih =>
      have hle := length_encode_le h
      have hpos := c.utf8Size_pos
      rw [encode_cons, List.length_append, String.length_utf8EncodeChar] at hlength
      omega
  | @cons_cons s t c h ih =>
      rw [encode_cons, encode_cons, List.length_append, List.length_append] at hlength
      rw [ih (by omega)]

/-- Different texts have different octets. -/
theorem encode_inj (h : encode s = encode t) : s = t := by
  have hbytes : s.utf8Encode = t.utf8Encode := congrArg List.toByteArray h
  have htext : String.ofList s = String.ofList t :=
    String.toByteArray_inj.mp (by simpa using hbytes)
  exact String.ofList_injective htext

end

/-! ### The octets of a code point -/

theorem toNat_ofNat {n : Nat} (h : n.isValidChar) : (Char.ofNat n).toNat = n := by
  rw [Char.ofNat, dif_pos h]
  rfl

theorem ofNat_eq {n : Nat} {b : UInt8} (h : n = b.toNat) : UInt8.ofNat n = b := by
  rw [h, UInt8.ofNat_toNat]

theorem utf8EncodeChar_two {c : Char} (hlow : 0x7F < c.toNat) (hhigh : c.toNat ≤ 0x7FF) :
    String.utf8EncodeChar c =
      [UInt8.ofNat (c.toNat / 64 % 32 + 192), UInt8.ofNat (c.toNat % 64 + 128)] := by
  rw [String.utf8EncodeChar]
  exact (if_neg (Nat.not_le_of_lt hlow)).trans (if_pos hhigh)

theorem utf8EncodeChar_three {c : Char} (hlow : 0x7FF < c.toNat) (hhigh : c.toNat ≤ 0xFFFF) :
    String.utf8EncodeChar c =
      [UInt8.ofNat (c.toNat / 4096 % 16 + 224), UInt8.ofNat (c.toNat / 64 % 64 + 128),
        UInt8.ofNat (c.toNat % 64 + 128)] := by
  have hnot : ¬c.toNat ≤ 0x7F := by omega
  rw [String.utf8EncodeChar]
  exact (if_neg hnot).trans ((if_neg (Nat.not_le_of_lt hlow)).trans (if_pos hhigh))

theorem utf8EncodeChar_four {c : Char} (hlow : 0xFFFF < c.toNat) :
    String.utf8EncodeChar c =
      [UInt8.ofNat (c.toNat / 262144 % 8 + 240), UInt8.ofNat (c.toNat / 4096 % 64 + 128),
        UInt8.ofNat (c.toNat / 64 % 64 + 128), UInt8.ofNat (c.toNat % 64 + 128)] := by
  have hnot : ¬c.toNat ≤ 0x7F := by omega
  have hnot' : ¬c.toNat ≤ 0x7FF := by omega
  rw [String.utf8EncodeChar]
  exact (if_neg hnot).trans ((if_neg hnot').trans (if_neg (Nat.not_le_of_lt hlow)))

/-! ### Nothing is lost -/

/-- The octets of a piece. -/
def Piece.octets : Piece → List UInt8
  | char c => String.utf8EncodeChar c
  | stray octets => octets

/-- Whatever octets complete an unfinished character, they and the octets so far are those of the
character. The arguments are the fields of `Unfinished`. -/
def Sound : Nat → UInt8 → UInt8 → Nat → List UInt8 → Prop
  | 0, low, high, bits, seen =>
    ∀ b, low ≤ b → b ≤ high →
      String.utf8EncodeChar (Char.ofNat (bits * 64 + b.toNat % 64)) = seen ++ [b]
  | n + 1, low, high, bits, seen =>
    ∀ b, low ≤ b → b ≤ high → Sound n 0x80 0xBF (bits * 64 + b.toNat % 64) (seen ++ [b])

/-- The unfinished character is sound. -/
def Unfinished.IsSound (u : Unfinished) : Prop :=
  Sound u.afterNext u.low u.high u.bits u.seen

/-- The beginning of a character of two octets is sound. -/
theorem sound_two {b : UInt8} (hlow : 0xC2 ≤ b) (hhigh : b ≤ 0xDF) :
    Sound 0 0x80 0xBF (b.toNat % 32) [b] := by
  intro b' hlow' hhigh'
  simp only [UInt8.le_iff_toNat_le, UInt8.reduceToNat] at hlow hhigh hlow' hhigh'
  have hnat : (Char.ofNat (b.toNat % 32 * 64 + b'.toNat % 64)).toNat =
      b.toNat % 32 * 64 + b'.toNat % 64 := toNat_ofNat (.inl (by omega))
  rw [utf8EncodeChar_two (by omega) (by omega), hnat, ofNat_eq (b := b) (by omega),
    ofNat_eq (b := b') (by omega)]
  rfl

/-- The beginning of a character of three octets is sound, if the second octet is kept from overlong
forms and from surrogates. -/
theorem sound_three {b low high : UInt8} (hb : 0xE0 ≤ b) (hb' : b ≤ 0xEF) (hlow : 0x80 ≤ low)
    (hhigh : high ≤ 0xBF) (hfirst : b = 0xE0 → 0xA0 ≤ low) (hlast : b = 0xED → high ≤ 0x9F) :
    Sound 1 low high (b.toNat % 16) [b] := by
  intro b₁ hlow₁ hhigh₁ b₂ hlow₂ hhigh₂
  simp only [UInt8.le_iff_toNat_le, ← UInt8.toNat_inj, UInt8.reduceToNat] at *
  have hvalid : ((b.toNat % 16 * 64 + b₁.toNat % 64) * 64 + b₂.toNat % 64).isValidChar := by
    by_cases h : b.toNat < 0xED
    · exact .inl (by omega)
    · by_cases h' : b.toNat = 0xED
      · exact .inl (by omega)
      · exact .inr (by omega)
  have hnat := toNat_ofNat hvalid
  have hoverlong : 0x7FF < (b.toNat % 16 * 64 + b₁.toNat % 64) * 64 + b₂.toNat % 64 := by
    by_cases h : b.toNat = 0xE0 <;> omega
  rw [utf8EncodeChar_three (by omega) (by omega), hnat, ofNat_eq (b := b) (by omega),
    ofNat_eq (b := b₁) (by omega), ofNat_eq (b := b₂) (by omega)]
  rfl

/-- The beginning of a character of four octets is sound, if the second octet is kept from overlong
forms and from what is beyond the last character. -/
theorem sound_four {b low high : UInt8} (hb : 0xF0 ≤ b) (hb' : b ≤ 0xF4) (hlow : 0x80 ≤ low)
    (hhigh : high ≤ 0xBF) (hfirst : b = 0xF0 → 0x90 ≤ low) (hlast : b = 0xF4 → high ≤ 0x8F) :
    Sound 2 low high (b.toNat % 8) [b] := by
  intro b₁ hlow₁ hhigh₁ b₂ hlow₂ hhigh₂ b₃ hlow₃ hhigh₃
  simp only [UInt8.le_iff_toNat_le, ← UInt8.toNat_inj, UInt8.reduceToNat] at *
  have hoverlong : 0x10 ≤ b.toNat % 8 * 64 + b₁.toNat % 64 := by
    by_cases h : b.toNat = 0xF0 <;> omega
  have hbeyond : b.toNat % 8 * 64 + b₁.toNat % 64 < 0x110 := by
    by_cases h : b.toNat = 0xF4 <;> omega
  have hnat := toNat_ofNat
    (n := ((b.toNat % 8 * 64 + b₁.toNat % 64) * 64 + b₂.toNat % 64) * 64 + b₃.toNat % 64)
    (.inr (by omega))
  rw [utf8EncodeChar_four (by omega), hnat, ofNat_eq (b := b) (by omega),
    ofNat_eq (b := b₁) (by omega), ofNat_eq (b := b₂) (by omega), ofNat_eq (b := b₃) (by omega)]
  rfl

/-- What the first octet of a piece starts is sound, and that octet is what was seen of it. -/
theorem isSound_of_unfinished? {b : UInt8} {u : Unfinished} (h : unfinished? b = some u) :
    u.IsSound ∧ u.seen = [b] := by
  unfold unfinished? at h
  simp only [Bool.and_eq_true, decide_eq_true_eq] at h
  split at h
  · next hb =>
      obtain rfl := Option.some.inj h
      exact ⟨sound_two hb.1 hb.2, rfl⟩
  · split at h
    · next hb =>
        obtain rfl := Option.some.inj h
        refine ⟨sound_three hb.1 hb.2 ?_ ?_ (fun hfirst => ?_) (fun hlast => ?_), rfl⟩
        · show (0x80 : UInt8) ≤ if b = 0xE0 then 0xA0 else 0x80
          split <;> decide
        · show (if b = 0xED then 0x9F else 0xBF) ≤ (0xBF : UInt8)
          split <;> decide
        · subst hfirst
          decide
        · subst hlast
          decide
    · split at h
      · next hb =>
          obtain rfl := Option.some.inj h
          refine ⟨sound_four hb.1 hb.2 ?_ ?_ (fun hfirst => ?_) (fun hlast => ?_), rfl⟩
          · show (0x80 : UInt8) ≤ if b = 0xF0 then 0x90 else 0x80
            split <;> decide
          · show (if b = 0xF4 then 0x8F else 0xBF) ≤ (0xBF : UInt8)
            split <;> decide
          · subst hfirst
            decide
          · subst hlast
            decide
      · cases h

/-- A first octet is all of a piece, or what was seen of a character that is sound. -/
theorem begin?_cases (b : UInt8) :
    (∃ p, begin? b = ([p], none) ∧ p.octets = [b]) ∨
      ∃ u, begin? b = ([], some u) ∧ u.IsSound ∧ u.seen = [b] := by
  unfold begin?
  split
  · next hb =>
      refine .inl ⟨_, rfl, ?_⟩
      have hlt : b.toNat < 0x80 := UInt8.lt_iff_toNat_lt.mp hb
      have hnat : (Char.ofNat b.toNat).toNat = b.toNat := toNat_ofNat (.inl (by omega))
      show String.utf8EncodeChar (Char.ofNat b.toNat) = [b]
      rw [utf8EncodeChar_ascii (by rwa [hnat]), hnat, UInt8.ofNat_toNat]
  · cases hstart : unfinished? b with
    | none => exact .inl ⟨_, rfl, rfl⟩
    | some u => exact .inr ⟨u, rfl, isSound_of_unfinished? hstart⟩

/-- The octets of an unfinished character, or of nothing. -/
def seen? : Option Unfinished → List UInt8
  | none => []
  | some u => u.seen

/-- An octet that starts a piece is not lost, whatever follows it. -/
theorem octets_start {b : UInt8} {rest : List UInt8}
    (ih : ∀ open?, (∀ u, open? = some u → u.IsSound) →
      (piecesFrom open? rest).flatMap Piece.octets = seen? open? ++ rest) :
    ((begin? b).1 ++ piecesFrom (begin? b).2 rest).flatMap Piece.octets = b :: rest := by
  rcases begin?_cases b with ⟨p, hstart, hp⟩ | ⟨u, hstart, hsound, hseen⟩
  · have hrest := ih none (by simp)
    rw [hstart, List.flatMap_append, hrest]
    simp [hp, seen?]
  · have hrest := ih (some u) (by rintro _ ⟨⟩; exact hsound)
    rw [hstart, List.nil_append, hrest]
    simp [seen?, hseen]

/-- The pieces behind an unfinished character have its octets and those that follow. -/
theorem octets_piecesFrom (octets : List UInt8) :
    ∀ open? : Option Unfinished, (∀ u, open? = some u → u.IsSound) →
      (piecesFrom open? octets).flatMap Piece.octets = seen? open? ++ octets := by
  induction octets with
  | nil =>
      intro open? _
      cases open? with
      | none => rfl
      | some u => simp [piecesFrom, seen?, Piece.octets]
  | cons b rest ih =>
      intro open? hopen
      cases open? with
      | none => exact octets_start ih
      | some u =>
          obtain ⟨afterNext, low, high, bits, seen⟩ := u
          have hsound := hopen _ rfl
          rw [piecesFrom]
          split
          · next hb =>
              rw [Bool.and_eq_true, decide_eq_true_eq, decide_eq_true_eq] at hb
              cases afterNext with
              | zero =>
                  have hchar := hsound b hb.1 hb.2
                  have hrest := ih none (by simp)
                  simp [Piece.octets, hchar, hrest, seen?]
              | succ n =>
                  have hnext := hsound b hb.1 hb.2
                  have hrest := ih (some ⟨n, 0x80, 0xBF, bits * 64 + b.toNat % 64, seen ++ [b]⟩)
                    (by rintro _ ⟨⟩; exact hnext)
                  simp [hrest, seen?]
          · -- the octet cannot continue the character: what was seen is astray
            rw [List.flatMap_cons, octets_start ih]
            rfl

/-- The pieces of octets, put together again, are the octets. -/
theorem octets_pieces (octets : List UInt8) : (pieces octets).flatMap Piece.octets = octets :=
  octets_piecesFrom octets none (by simp)

/-! ### The octets of a character are one piece -/

section

variable {b b₁ b₂ b₃ : UInt8} {rest : List UInt8}

theorem piecesFrom_lead {u : Unfinished} (hb : 0x80 ≤ b) (h : unfinished? b = some u) :
    piecesFrom none (b :: rest) = piecesFrom (some u) rest := by
  have hnot : ¬b < 0x80 := UInt8.not_lt.mpr hb
  simp [piecesFrom, begin?, hnot, h]

theorem piecesFrom_next {n bits : Nat} {low high : UInt8} {seen : List UInt8} (hlow : low ≤ b)
    (hhigh : b ≤ high) :
    piecesFrom (some ⟨n + 1, low, high, bits, seen⟩) (b :: rest) =
      piecesFrom (some ⟨n, 0x80, 0xBF, bits * 64 + b.toNat % 64, seen ++ [b]⟩) rest := by
  simp [piecesFrom, hlow, hhigh]

theorem piecesFrom_last {bits : Nat} {low high : UInt8} {seen : List UInt8} (hlow : low ≤ b)
    (hhigh : b ≤ high) :
    piecesFrom (some ⟨0, low, high, bits, seen⟩) (b :: rest) =
      .char (Char.ofNat (bits * 64 + b.toNat % 64)) :: pieces rest := by
  simp [piecesFrom, pieces, hlow, hhigh]

theorem unfinished?_two (hb : 0xC2 ≤ b) (hb' : b ≤ 0xDF) :
    unfinished? b = some ⟨0, 0x80, 0xBF, b.toNat % 32, [b]⟩ := by
  simp [unfinished?, hb, hb']

theorem unfinished?_three (hb : 0xE0 ≤ b) (hb' : b ≤ 0xEF) :
    unfinished? b =
      some ⟨1, if b = 0xE0 then 0xA0 else 0x80, if b = 0xED then 0x9F else 0xBF, b.toNat % 16,
        [b]⟩ := by
  have hnot : ¬b ≤ 0xDF := by
    simp only [UInt8.le_iff_toNat_le, UInt8.reduceToNat] at hb ⊢
    omega
  simp [unfinished?, hnot, hb, hb']

theorem unfinished?_four (hb : 0xF0 ≤ b) (hb' : b ≤ 0xF4) :
    unfinished? b =
      some ⟨2, if b = 0xF0 then 0x90 else 0x80, if b = 0xF4 then 0x8F else 0xBF, b.toNat % 8,
        [b]⟩ := by
  have hnot : ¬b ≤ 0xDF ∧ ¬b ≤ 0xEF := by
    simp only [UInt8.le_iff_toNat_le, UInt8.reduceToNat] at hb ⊢
    omega
  simp [unfinished?, hnot, hb, hb']

/-- An octet that goes on with a character, but does not start one. -/
def IsFurther (b : UInt8) : Prop := 0x80 ≤ b ∧ b ≤ 0xBF

theorem pieces_two (hb : 0xC2 ≤ b) (hb' : b ≤ 0xDF) (h₁ : IsFurther b₁) :
    pieces (b :: b₁ :: rest) =
      .char (Char.ofNat (b.toNat % 32 * 64 + b₁.toNat % 64)) :: pieces rest := by
  have hlead : 0x80 ≤ b := UInt8.le_trans (by decide) hb
  rw [pieces, piecesFrom_lead hlead (unfinished?_two hb hb'), piecesFrom_last h₁.1 h₁.2, pieces]

/-- What the first octet says of the second one keeps overlong forms and surrogates out. -/
theorem pieces_three (hb : 0xE0 ≤ b) (hb' : b ≤ 0xEF) (h₁ : IsFurther b₁)
    (hfirst : b = 0xE0 → 0xA0 ≤ b₁) (hlast : b = 0xED → b₁ ≤ 0x9F) (h₂ : IsFurther b₂) :
    pieces (b :: b₁ :: b₂ :: rest) =
      .char (Char.ofNat ((b.toNat % 16 * 64 + b₁.toNat % 64) * 64 + b₂.toNat % 64)) ::
        pieces rest := by
  have hlead : 0x80 ≤ b := UInt8.le_trans (by decide) hb
  have hlow : (if b = 0xE0 then 0xA0 else 0x80 : UInt8) ≤ b₁ := by
    split
    · next heq => exact hfirst heq
    · exact h₁.1
  have hhigh : b₁ ≤ (if b = 0xED then 0x9F else 0xBF : UInt8) := by
    split
    · next heq => exact hlast heq
    · exact h₁.2
  rw [pieces, piecesFrom_lead hlead (unfinished?_three hb hb'), piecesFrom_next hlow hhigh,
    piecesFrom_last h₂.1 h₂.2, pieces]

/-- What the first octet says of the second one keeps overlong forms out, and what is beyond the last
character. -/
theorem pieces_four (hb : 0xF0 ≤ b) (hb' : b ≤ 0xF4) (h₁ : IsFurther b₁)
    (hfirst : b = 0xF0 → 0x90 ≤ b₁) (hlast : b = 0xF4 → b₁ ≤ 0x8F) (h₂ : IsFurther b₂)
    (h₃ : IsFurther b₃) :
    pieces (b :: b₁ :: b₂ :: b₃ :: rest) =
      .char (Char.ofNat (((b.toNat % 8 * 64 + b₁.toNat % 64) * 64 + b₂.toNat % 64) * 64 +
        b₃.toNat % 64)) :: pieces rest := by
  have hlead : 0x80 ≤ b := UInt8.le_trans (by decide) hb
  have hlow : (if b = 0xF0 then 0x90 else 0x80 : UInt8) ≤ b₁ := by
    split
    · next heq => exact hfirst heq
    · exact h₁.1
  have hhigh : b₁ ≤ (if b = 0xF4 then 0x8F else 0xBF : UInt8) := by
    split
    · next heq => exact hlast heq
    · exact h₁.2
  rw [pieces, piecesFrom_lead hlead (unfinished?_four hb hb'), piecesFrom_next hlow hhigh,
    piecesFrom_next h₂.1 h₂.2, piecesFrom_last h₃.1 h₃.2, pieces]

end

section

variable {c : Char} {n : Nat}

theorem toNat_octet (h : n < 256) : (UInt8.ofNat n).toNat = n := by
  rw [UInt8.toNat_ofNat']
  omega

theorem isFurther_octet (n : Nat) : IsFurther (UInt8.ofNat (n % 64 + 128)) := by
  have hnat := toNat_octet (n := n % 64 + 128) (by omega)
  simp only [IsFurther, UInt8.le_iff_toNat_le, hnat, UInt8.reduceToNat]
  omega

theorem ofNat_eq_char (h : n = c.toNat) : Char.ofNat n = c := by
  rw [h, Char.ofNat_toNat]

theorem pieces_encode_one (h : c.toNat ≤ 0x7F) (rest : List UInt8) :
    pieces (String.utf8EncodeChar c ++ rest) = .char c :: pieces rest := by
  have hnat := toNat_octet (n := c.toNat) (by omega)
  have hlt : UInt8.ofNat c.toNat < 0x80 := by
    rw [UInt8.lt_iff_toNat_lt, hnat]
    exact Nat.lt_succ_of_le h
  rw [utf8EncodeChar_ascii (Nat.lt_succ_of_le h)]
  simp [pieces, piecesFrom, begin?, hlt, hnat, Char.ofNat_toNat]

theorem pieces_encode_two (hlow : 0x7F < c.toNat) (hhigh : c.toNat ≤ 0x7FF) (rest : List UInt8) :
    pieces (String.utf8EncodeChar c ++ rest) = .char c :: pieces rest := by
  have hlead := toNat_octet (n := c.toNat / 64 % 32 + 192) (by omega)
  have hlast := toNat_octet (n := c.toNat % 64 + 128) (by omega)
  rw [utf8EncodeChar_two hlow hhigh]
  refine (pieces_two ?_ ?_ (isFurther_octet _)).trans ?char
  case char =>
    rw [hlead, hlast, ofNat_eq_char (c := c) (by omega)]
    rfl
  all_goals
    simp only [UInt8.le_iff_toNat_le, hlead, UInt8.reduceToNat]
    omega

theorem pieces_encode_three (hlow : 0x7FF < c.toNat) (hhigh : c.toNat ≤ 0xFFFF)
    (rest : List UInt8) :
    pieces (String.utf8EncodeChar c ++ rest) = .char c :: pieces rest := by
  have hvalid : c.toNat < 0xD800 ∨ 0xDFFF < c.toNat ∧ c.toNat < 0x110000 := c.valid
  have hlead := toNat_octet (n := c.toNat / 4096 % 16 + 224) (by omega)
  have hnext := toNat_octet (n := c.toNat / 64 % 64 + 128) (by omega)
  have hlast := toNat_octet (n := c.toNat % 64 + 128) (by omega)
  rw [utf8EncodeChar_three hlow hhigh]
  refine (pieces_three ?_ ?_ (isFurther_octet _) ?_ ?_ (isFurther_octet _)).trans ?char
  case char =>
    rw [hlead, hnext, hlast, ofNat_eq_char (c := c) (by omega)]
    rfl
  all_goals
    simp only [UInt8.le_iff_toNat_le, ← UInt8.toNat_inj, hlead, hnext, UInt8.reduceToNat]
    omega

theorem pieces_encode_four (hlow : 0xFFFF < c.toNat) (rest : List UInt8) :
    pieces (String.utf8EncodeChar c ++ rest) = .char c :: pieces rest := by
  have hvalid : c.toNat < 0xD800 ∨ 0xDFFF < c.toNat ∧ c.toNat < 0x110000 := c.valid
  have hlead := toNat_octet (n := c.toNat / 262144 % 8 + 240) (by omega)
  have hsecond := toNat_octet (n := c.toNat / 4096 % 64 + 128) (by omega)
  have hthird := toNat_octet (n := c.toNat / 64 % 64 + 128) (by omega)
  have hlast := toNat_octet (n := c.toNat % 64 + 128) (by omega)
  rw [utf8EncodeChar_four hlow]
  refine (pieces_four ?_ ?_ (isFurther_octet _) ?_ ?_ (isFurther_octet _)
    (isFurther_octet _)).trans ?char
  case char =>
    rw [hlead, hsecond, hthird, hlast, ofNat_eq_char (c := c) (by omega)]
    rfl
  all_goals
    simp only [UInt8.le_iff_toNat_le, ← UInt8.toNat_inj, hlead, hsecond, UInt8.reduceToNat]
    omega

end

/-- The octets of a character are one piece, whatever follows them. -/
theorem pieces_encode (c : Char) (rest : List UInt8) :
    pieces (String.utf8EncodeChar c ++ rest) = .char c :: pieces rest := by
  rcases Nat.lt_or_ge 0x7F c.toNat with htwo | hone
  · rcases Nat.lt_or_ge 0x7FF c.toNat with hthree | hhigh
    · rcases Nat.lt_or_ge 0xFFFF c.toNat with hfour | hhigh
      · exact pieces_encode_four hfour rest
      · exact pieces_encode_three hthree hhigh rest
    · exact pieces_encode_two htwo hhigh rest
  · exact pieces_encode_one hone rest

/-! ### Reading and writing -/

theorem mapM_char?_eq_some_iff {ps : List Piece} {s : List Char} :
    ps.mapM Piece.char? = some s ↔ ps = s.map .char := by
  induction ps generalizing s with
  | nil => simp [eq_comm]
  | cons p ps ih =>
      rw [List.mapM_cons]
      cases p with
      | char c =>
          cases s with
          | nil => simp [Piece.char?, Option.bind_eq_some_iff]
          | cons d s =>
              simp only [Piece.char?, Option.bind_eq_bind, Option.bind_some,
                Option.bind_eq_some_iff, ih, Option.pure_def, Option.some.injEq, List.cons.injEq,
                List.map_cons, Piece.char.injEq]
              exact ⟨fun ⟨t, ht, hc, hs⟩ => ⟨hc, hs ▸ ht⟩, fun ⟨hc, hs⟩ => ⟨s, hs, hc, rfl⟩⟩
      | stray octets => cases s <;> simp [Piece.char?]

theorem pieces_encode_text (s : List Char) : pieces (encode s) = s.map .char := by
  induction s with
  | nil => rfl
  | cons c s ih => rw [encode_cons, pieces_encode, ih, List.map_cons]

/-- **Octets are a text exactly if they write it.** -/
theorem decode?_eq_some_iff {octets : List UInt8} {s : List Char} :
    decode? octets = some s ↔ octets = encode s := by
  rw [decode?, mapM_char?_eq_some_iff]
  constructor
  · intro h
    calc octets = (pieces octets).flatMap Piece.octets := (octets_pieces octets).symm
      _ = encode s := by rw [h, List.flatMap_map]; rfl
  · rintro rfl
    exact pieces_encode_text s

end RailWatch.Text.Utf8

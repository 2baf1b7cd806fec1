import RailWatch.Proofs.Json.Token
/-!
# RailWatch.Proofs.Json.Reader

The readers of whole values on texts of the grammar.

`Value.read_of_denotes` says that every JSON text is read as the value it denotes, and
`skipValue_writes` that the reader of values nobody looks at passes over them. Both are one
induction on the grammar. The fuel that is left is part of what is proved: after a phrase there is
still enough for the rest of the text.
-/

namespace RailWatch.Json

open Text

theorem fuelFor_append (s rest : List Char) :
    fuelFor (s ++ rest) = 2 * s.length + fuelFor rest := by
  simp only [fuelFor, List.length_append]
  omega

theorem fuelFor_cons (c : Char) (s : List Char) : fuelFor (c :: s) = fuelFor s + 2 := by
  simp only [fuelFor, List.length_cons]
  omega

theorem exists_succ_of_fuelFor_le {s : List Char} {fuel : Nat} (h : fuelFor s ≤ fuel + 1) :
    ∃ k, fuel = k + 1 := by
  unfold fuelFor at h
  exact ⟨fuel - 1, by omega⟩

/-! ### Reading -/

theorem readValue_blank {w : List Char} (hw : Blank w) (fuel : Nat) (s : List Char) :
    readValue (fuel + 1) (w ++ s) = readValue (fuel + 1) s := by
  rw [readValue, readValue, hw.skipSpace_append]

theorem readValue_scalar {c : Char} (hspace : isSpace c = false) (hlist : c ≠ '[')
    (hobject : c ≠ Char.ofNat 0x7B) (fuel : Nat) (s : List Char) :
    readValue (fuel + 1) (c :: s) = readScalar fuel (c :: s) := by
  rw [readValue, skipSpace_cons hspace]
  simp only [if_neg hlist, if_neg hobject]

theorem readScalar_digit {c : Char} (h : isDigit c = true) (fuel : Nat) (s : List Char) :
    readScalar fuel (c :: s) = (readNumber false (c :: s)).map fun (n, r) => (.number n, r) := by
  have hne := fun d => ne_of_isDigit (d := d) h
  simp [readScalar, h, hne 'n' (by decide), hne 't' (by decide), hne 'f' (by decide),
    hne '-' (by decide)]

/-- With fuel for the whole text, the phrase is read and nothing more. -/
def Reads : Phrase → List Char → Prop
  | .value v, s => ∀ (fuel : Nat) (rest : List Char), Ends rest → fuelFor (s ++ rest) ≤ fuel + 1 →
      readValue fuel (s ++ rest) = .ok (v, rest)
  | .items first vs, s => ∀ (done : List Value) (fuel : Nat) (rest : List Char),
      fuelFor (s ++ rest) ≤ fuel →
      readItems done fuel first (s ++ rest) = .ok (done.reverse ++ vs, rest)
  | .members first ms, s => ∀ (done : List (String × Value)) (fuel : Nat) (rest : List Char),
      fuelFor (s ++ rest) ≤ fuel →
      readMembers done fuel first (s ++ rest) = .ok (done.reverse ++ ms, rest)

theorem Writes.reads {p : Phrase} {s : List Char} (h : Writes p s) : Reads p s := by
  induction h with
  | null =>
      intro fuel rest _ hfuel
      obtain ⟨fuel, rfl⟩ := exists_succ_of_fuelFor_le hfuel
      rw [List.cons_append, readValue_scalar (by decide) (by decide) (by decide), readScalar,
        if_pos rfl, readWord_append]
      rfl
  | yes =>
      intro fuel rest _ hfuel
      obtain ⟨fuel, rfl⟩ := exists_succ_of_fuelFor_le hfuel
      rw [List.cons_append, readValue_scalar (by decide) (by decide) (by decide), readScalar,
        if_neg (by decide), if_pos rfl, readWord_append]
      rfl
  | no =>
      intro fuel rest _ hfuel
      obtain ⟨fuel, rfl⟩ := exists_succ_of_fuelFor_le hfuel
      rw [List.cons_append, readValue_scalar (by decide) (by decide) (by decide), readScalar,
        if_neg (by decide), if_neg (by decide), if_pos rfl, readWord_append]
      rfl
  | positive hn =>
      intro fuel rest hrest hfuel
      obtain ⟨c, r, hc, hd⟩ := hn.head
      obtain ⟨fuel, rfl⟩ := exists_succ_of_fuelFor_le hfuel
      have hread := readNumber_magnitude hn hrest
      subst hc
      rw [List.cons_append] at hread ⊢
      rw [readValue_scalar (isSpace_of_isDigit hd) (ne_of_isDigit hd (by decide))
        (ne_of_isDigit hd (by decide)), readScalar_digit hd, hread]
      rfl
  | negative hn =>
      intro fuel rest hrest hfuel
      obtain ⟨fuel, rfl⟩ := exists_succ_of_fuelFor_le hfuel
      rw [List.cons_append, readValue_scalar (by decide) (by decide) (by decide), readScalar,
        if_neg (by decide), if_neg (by decide), if_neg (by decide), if_pos rfl,
        readNumber_magnitude hn hrest]
      rfl
  | @text raw cs hraw =>
      intro fuel rest _ hfuel
      obtain ⟨fuel, rfl⟩ := exists_succ_of_fuelFor_le hfuel
      simp only [List.cons_append, List.append_assoc, List.nil_append, fuelFor_cons,
        fuelFor_append] at hfuel ⊢
      rw [readValue_scalar (by decide) (by decide) (by decide), readScalar,
        if_neg (by decide), if_neg (by decide), if_neg (by decide), if_neg (by decide),
        if_neg (by decide), if_pos rfl, readString_spelling hraw rest (by omega)]
      rfl
  | list _ ih =>
      intro fuel rest _ hfuel
      obtain ⟨fuel, rfl⟩ := exists_succ_of_fuelFor_le hfuel
      rw [List.cons_append, fuelFor_cons] at hfuel
      rw [List.cons_append, readValue, skipSpace_cons (by decide)]
      simp only [if_true]
      rw [ih [] fuel rest (by omega)]
      rfl
  | object _ ih =>
      intro fuel rest _ hfuel
      obtain ⟨fuel, rfl⟩ := exists_succ_of_fuelFor_le hfuel
      rw [List.cons_append, fuelFor_cons] at hfuel
      rw [List.cons_append, readValue, skipSpace_cons (by decide)]
      simp only [if_true]
      rw [if_neg (by decide), ih [] fuel rest (by omega)]
      rfl
  | listEnd hw =>
      intro done fuel rest hfuel
      obtain ⟨fuel, rfl⟩ := exists_succ_of_fuelFor_le (Nat.le_succ_of_le hfuel)
      rw [List.append_assoc, List.singleton_append]
      rw [readItems, nextItem_end hw, closeList_end hw]
      simp [Except.map]
  | @item first v vs lead s t hlead hv hvs ihv ihvs =>
      intro done fuel rest hfuel
      obtain ⟨c, r, hs, hc⟩ := hv.opens
      obtain ⟨fuel, rfl⟩ := exists_succ_of_fuelFor_le (Nat.le_succ_of_le hfuel)
      simp only [List.append_assoc, fuelFor_append] at hfuel ⊢
      have hitem := ihv fuel (t ++ rest) (hvs.ends_items rest) (by
        simp only [fuelFor_append]
        omega)
      -- the element has at least one character, which pays for this step
      have hrest := ihvs (v :: done) fuel rest (by
        rw [hs] at hfuel
        simp only [fuelFor_append, List.length_cons] at hfuel ⊢
        omega)
      subst hs
      rw [List.cons_append] at hitem ⊢
      rw [readItems, nextItem_lead hlead hc]
      simp only
      rw [hitem]
      simp only
      rw [hrest]
      simp
  | objectEnd hw =>
      intro done fuel rest hfuel
      obtain ⟨fuel, rfl⟩ := exists_succ_of_fuelFor_le (Nat.le_succ_of_le hfuel)
      rw [List.append_assoc, List.singleton_append]
      rw [readMembers, nextKey_end hw]
      simp only
      rw [skipSpace_end hw]
      simp
  | @member first v ms lead raw key w w' s t hlead hraw hw hw' hv hms ihv ihms =>
      intro done fuel rest hfuel
      simp only [List.append_assoc, List.cons_append, fuelFor_append, fuelFor_cons] at hfuel ⊢
      obtain ⟨fuel, rfl⟩ : ∃ k, fuel = k + 2 := ⟨fuel - 2, by omega⟩
      have hitem := ihv (fuel + 1) (t ++ rest) (hms.ends_members rest) (by
        simp only [fuelFor_append]
        omega)
      have hrest := ihms ((String.ofList key, v) :: done) (fuel + 1) rest (by
        simp only [fuelFor_append]
        omega)
      rw [readMembers, nextKey_lead hlead]
      simp only
      rw [readString_spelling hraw _ (by omega)]
      simp only
      rw [readColon_colon hw]
      simp only
      -- the space after the colon is left to the reader of the value
      rw [readValue_blank hw', hitem]
      simp only
      rw [hrest]
      simp

/-- **Every JSON text is read as the value it denotes.** -/
theorem Value.read_of_denotes {text : List Char} {v : Value} (h : Denotes text v) :
    Value.read text = .ok v := by
  obtain ⟨w, s, w', hw, hs, hw', rfl⟩ := h
  have hfuel : fuelFor (w ++ (s ++ w')) = 2 * w.length + 2 * s.length + 2 * w'.length + 1 + 1 := by
    simp only [fuelFor, List.length_append]
    omega
  have hread := hs.reads (2 * w.length + 2 * s.length + 2 * w'.length + 1 + 1) w' hw'.ends_self (by
    simp only [fuelFor, List.length_append]
    omega)
  rw [Value.read, hfuel, readValue_blank hw, hread]
  simp [closeText_blank hw', bind, Except.bind, pure, Except.pure]

/-- A JSON text denotes one value only. -/
theorem Denotes.unique {text : List Char} {v v' : Value} (h : Denotes text v)
    (h' : Denotes text v') : v = v' :=
  Except.ok.inj ((Value.read_of_denotes h).symm.trans (Value.read_of_denotes h'))

/-! ### Passing over -/

theorem skipFrom_blank {w : List Char} (hw : Blank w) (fuel : Nat) (frames : List Frame)
    (s : List Char) :
    skipFrom (fuel + 1) .value frames (w ++ s) = skipFrom (fuel + 1) .value frames s := by
  rw [skipFrom, skipFrom, hw.skipSpace_append]

theorem skipFrom_digit {c : Char} (h : isDigit c = true) (fuel : Nat) (frames : List Frame)
    (s : List Char) :
    skipFrom (fuel + 1) .value frames (c :: s) =
      skipNumber (c :: s) >>= skipFrom fuel .next frames := by
  have hne := fun d => ne_of_isDigit (d := d) h
  rw [skipFrom, skipSpace_cons (isSpace_of_isDigit h)]
  simp [h, hne 'n' (by decide), hne 't' (by decide), hne 'f' (by decide), hne '-' (by decide)]

/-- What comes next in a frame whose first element or member has not come yet, or has. -/
def Await.ofFirst (first : Bool) : Await := if first then .first else .next

/-- With fuel for the whole text, the phrase is passed over, and fuel for the rest is left. -/
def Skips : Phrase → List Char → Prop
  | .value _, s => ∀ (fuel : Nat) (frames : List Frame) (rest : List Char), Ends rest →
      fuelFor (s ++ rest) ≤ fuel + 1 → ∃ fuel', fuelFor rest ≤ fuel' ∧
        skipFrom fuel .value frames (s ++ rest) = skipFrom fuel' .next frames rest
  | .items first _, s => ∀ (fuel : Nat) (frames : List Frame) (rest : List Char),
      fuelFor (s ++ rest) ≤ fuel → ∃ fuel', fuelFor rest ≤ fuel' ∧
        skipFrom fuel (.ofFirst first) (.list :: frames) (s ++ rest) =
          skipFrom fuel' .next frames rest
  | .members first _, s => ∀ (fuel : Nat) (frames : List Frame) (rest : List Char),
      fuelFor (s ++ rest) ≤ fuel → ∃ fuel', fuelFor rest ≤ fuel' ∧
        skipFrom fuel (.ofFirst first) (.object :: frames) (s ++ rest) =
          skipFrom fuel' .next frames rest

/-- Where the value of an element starts. -/
theorem skipFrom_item {first : Bool} {lead : List Char} (hlead : Lead first lead) {v : Value}
    {c : Char} (hc : v.Opens c) (fuel : Nat) (frames : List Frame) (s : List Char) :
    skipFrom (fuel + 2) (.ofFirst first) (.list :: frames) (lead ++ c :: s) =
      skipFrom (fuel + 1) .value (.list :: frames) (c :: s) := by
  have hskip := skipSpace_cons hc.isSpace_eq s
  have hend : c ≠ Frame.list.closer := fun h => hc.not_closes (.inr (.inr (.inl h)))
  cases hlead with
  | first hw => simp [Await.ofFirst, skipFrom, hw.skipSpace_append, hskip, hend, Frame.start]
  | @next w w' hw hw' =>
      have hcomma : skipSpace (',' :: (w' ++ c :: s)) = ',' :: (w' ++ c :: s) :=
        skipSpace_cons (by decide) _
      -- after the comma the skipper expects a value and passes over the space itself
      rw [List.append_assoc, List.cons_append, ← skipFrom_blank hw' fuel (.list :: frames)]
      simp [Await.ofFirst, skipFrom, hw.skipSpace_append, hcomma, Frame.start]

/-- Where the key of a member starts. -/
theorem skipFrom_member {first : Bool} {lead : List Char} (hlead : Lead first lead)
    (fuel : Nat) (frames : List Frame) (s : List Char) :
    skipFrom (fuel + 2) (.ofFirst first) (.object :: frames) (lead ++ '"' :: s) =
      skipFrom (fuel + 1) .key (.object :: frames) ('"' :: s) := by
  have hskip : skipSpace ('"' :: s) = '"' :: s := skipSpace_cons (by decide) s
  cases hlead with
  | first hw =>
      rw [Await.ofFirst, if_pos rfl, skipFrom, hw.skipSpace_append, hskip]
      rfl
  | @next w w' hw hw' =>
      have hcomma : skipSpace (',' :: (w' ++ '"' :: s)) = ',' :: (w' ++ '"' :: s) :=
        skipSpace_cons (by decide) _
      rw [List.append_assoc, List.cons_append, Await.ofFirst, if_neg (by decide), skipFrom,
        hw.skipSpace_append, hcomma]
      simp only [if_true, Frame.start]
      rw [skipFrom, skipFrom, hw'.skipSpace_append]

/-- The end of a list or an object. -/
theorem skipFrom_end {w : List Char} (hw : Blank w) (first : Bool) (frame : Frame) (fuel : Nat)
    (frames : List Frame) (s : List Char) :
    skipFrom (fuel + 1) (.ofFirst first) (frame :: frames) (w ++ frame.closer :: s) =
      skipFrom fuel .next frames s := by
  have hskip : skipSpace (frame.closer :: s) = frame.closer :: s :=
    skipSpace_cons (by cases frame <;> decide) s
  have hcomma : frame.closer ≠ ',' := by cases frame <;> decide
  cases first <;> simp [Await.ofFirst, skipFrom, hw.skipSpace_append, hskip, hcomma]

/-- A scalar is passed over in one step. -/
theorem skips_of_step {v : Value} {s : List Char} (hs : s ≠ [])
    (h : ∀ (fuel : Nat) (frames : List Frame) (rest : List Char), Ends rest → s.length ≤ fuel →
      skipFrom (fuel + 1) .value frames (s ++ rest) = skipFrom fuel .next frames rest) :
    Skips (.value v) s := by
  intro fuel frames rest hrest hfuel
  obtain ⟨fuel, rfl⟩ := exists_succ_of_fuelFor_le hfuel
  have hlength : 0 < s.length := List.length_pos_iff.mpr hs
  have hleft : 2 ≤ fuelFor rest := Nat.le_add_left 2 _
  rw [fuelFor_append] at hfuel
  exact ⟨fuel, by omega, h fuel frames rest hrest (by omega)⟩

theorem Writes.skips {p : Phrase} {s : List Char} (h : Writes p s) : Skips p s := by
  induction h with
  | null =>
      refine skips_of_step (by simp) fun fuel frames rest _ _ => ?_
      rw [List.cons_append, skipFrom, skipSpace_cons (by decide)]
      simp only [if_true]
      rw [readWord_append]
      rfl
  | yes =>
      refine skips_of_step (by simp) fun fuel frames rest _ _ => ?_
      rw [List.cons_append, skipFrom, skipSpace_cons (by decide)]
      simp only [if_true]
      rw [if_neg (by decide), readWord_append]
      rfl
  | no =>
      refine skips_of_step (by simp) fun fuel frames rest _ _ => ?_
      rw [List.cons_append, skipFrom, skipSpace_cons (by decide)]
      simp only [if_true]
      rw [if_neg (by decide), if_neg (by decide), readWord_append]
      rfl
  | positive hn =>
      obtain ⟨c, r, hc, hd⟩ := hn.head
      refine skips_of_step (by simp [hc]) fun fuel frames rest hrest _ => ?_
      have hskip := skipNumber_magnitude hn hrest
      subst hc
      rw [List.cons_append] at hskip ⊢
      rw [skipFrom_digit hd, hskip]
      rfl
  | negative hn =>
      refine skips_of_step (by simp) fun fuel frames rest hrest _ => ?_
      rw [List.cons_append, skipFrom, skipSpace_cons (by decide)]
      simp only [if_true]
      rw [if_neg (by decide), if_neg (by decide), if_neg (by decide),
        skipNumber_magnitude hn hrest]
      rfl
  | @text raw cs hraw =>
      refine skips_of_step (by simp) fun fuel frames rest _ hfuel => ?_
      simp only [List.length_cons, List.length_append] at hfuel
      simp only [List.cons_append, List.append_assoc, List.nil_append]
      rw [skipFrom, skipSpace_cons (by decide)]
      simp only [if_true]
      rw [if_neg (by decide), if_neg (by decide), if_neg (by decide), if_neg (by decide),
        if_neg (by decide), skipString_spelling hraw rest (by omega)]
      rfl
  | list _ ih =>
      intro fuel frames rest _ hfuel
      obtain ⟨fuel, rfl⟩ := exists_succ_of_fuelFor_le hfuel
      rw [List.cons_append, fuelFor_cons] at hfuel
      rw [List.cons_append, skipFrom, skipSpace_cons (by decide)]
      obtain ⟨fuel', hfuel', hskip⟩ := ih fuel frames rest (by omega)
      exact ⟨fuel', hfuel', hskip⟩
  | object _ ih =>
      intro fuel frames rest _ hfuel
      obtain ⟨fuel, rfl⟩ := exists_succ_of_fuelFor_le hfuel
      rw [List.cons_append, fuelFor_cons] at hfuel
      rw [List.cons_append, skipFrom, skipSpace_cons (by decide)]
      obtain ⟨fuel', hfuel', hskip⟩ := ih fuel frames rest (by omega)
      exact ⟨fuel', hfuel', hskip⟩
  | @listEnd first w hw =>
      intro fuel frames rest hfuel
      obtain ⟨fuel, rfl⟩ := exists_succ_of_fuelFor_le (Nat.le_succ_of_le hfuel)
      rw [List.append_assoc, List.singleton_append, fuelFor_append, fuelFor_cons] at hfuel
      rw [List.append_assoc, List.singleton_append]
      exact ⟨fuel, by omega, skipFrom_end hw first .list fuel frames rest⟩
  | @item first v vs lead s t hlead hv hvs ihv ihvs =>
      intro fuel frames rest hfuel
      obtain ⟨c, r, hs, hc⟩ := hv.opens
      simp only [List.append_assoc, fuelFor_append] at hfuel ⊢
      obtain ⟨fuel, rfl⟩ : ∃ k, fuel = k + 2 := ⟨fuel - 2, by
        simp only [hs, List.length_cons] at hfuel
        omega⟩
      obtain ⟨fuel₁, hfuel₁, hskip₁⟩ := ihv (fuel + 1) (.list :: frames) (t ++ rest)
        (hvs.ends_items rest) (by
          simp only [fuelFor_append]
          omega)
      obtain ⟨fuel₂, hfuel₂, hskip₂⟩ := ihvs fuel₁ frames rest hfuel₁
      refine ⟨fuel₂, hfuel₂, ?_⟩
      subst hs
      rw [List.cons_append] at hskip₁ ⊢
      rw [skipFrom_item hlead hc, hskip₁, ← hskip₂]
      rfl
  | @objectEnd first w hw =>
      intro fuel frames rest hfuel
      obtain ⟨fuel, rfl⟩ := exists_succ_of_fuelFor_le (Nat.le_succ_of_le hfuel)
      rw [List.append_assoc, List.singleton_append, fuelFor_append, fuelFor_cons] at hfuel
      rw [List.append_assoc, List.singleton_append]
      exact ⟨fuel, by omega, skipFrom_end hw first .object fuel frames rest⟩
  | @member first v ms lead raw key w w' s t hlead hraw hw hw' hv hms ihv ihms =>
      intro fuel frames rest hfuel
      simp only [List.append_assoc, List.cons_append, fuelFor_append, fuelFor_cons] at hfuel ⊢
      -- one step each for the lead and the key, and the value needs one more
      obtain ⟨fuel, rfl⟩ : ∃ k, fuel = k + 3 := ⟨fuel - 3, by omega⟩
      obtain ⟨fuel₁, hfuel₁, hskip₁⟩ := ihv (fuel + 1) (.object :: frames) (t ++ rest)
        (hms.ends_members rest) (by
          simp only [fuelFor_append]
          omega)
      obtain ⟨fuel₂, hfuel₂, hskip₂⟩ := ihms fuel₁ frames rest hfuel₁
      refine ⟨fuel₂, hfuel₂, ?_⟩
      rw [skipFrom_member hlead, skipFrom, skipSpace_cons (by decide)]
      simp only [if_true]
      rw [skipString_spelling hraw _ (by omega), ← hskip₂]
      simp only [bind, Except.bind]
      rw [readColon_colon hw]
      simp only
      rw [skipFrom_blank hw', hskip₁]
      rfl

/-- **A value nobody looks at is passed over**, whatever is in it. -/
theorem skipValue_writes {v : Value} {s w rest : List Char} (h : Writes (.value v) s)
    (hw : Blank w) (hrest : Ends rest) {fuel : Nat} (hfuel : fuelFor (s ++ rest) ≤ fuel + 1) :
    skipValue fuel (w ++ (s ++ rest)) = .ok rest := by
  obtain ⟨fuel', hfuel', hskip⟩ := h.skips fuel [] rest hrest hfuel
  obtain ⟨fuel, rfl⟩ := exists_succ_of_fuelFor_le hfuel
  obtain ⟨fuel', rfl⟩ := exists_succ_of_fuelFor_le (Nat.le_succ_of_le hfuel')
  rw [skipValue, skipFrom_blank hw, hskip]
  rfl

end RailWatch.Json

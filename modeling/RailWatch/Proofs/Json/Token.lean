import RailWatch.Proofs.Json.Grammar
/-!
# RailWatch.Proofs.Json.Token

The token readers on texts of the grammar: each takes exactly the token in front and gives what it
stands for, whatever comes after it. A number has no mark of its own at its end, so it is read in
front of texts that no number goes on with.
-/

namespace RailWatch.Json

open Text

/-! ### White space and words -/

/-- White space in front makes no difference to what is left after white space. -/
theorem Blank.skipSpace_append {w : List Char} (h : Blank w) (s : List Char) :
    skipSpace (w ++ s) = skipSpace s := by
  induction w with
  | nil => rfl
  | cons c w ih =>
      have hc : isSpace c = true := h c (by simp)
      have hw : Blank w := fun d hd => h d (by simp [hd])
      rw [List.cons_append, skipSpace, List.dropWhile_cons, if_pos hc]
      exact ih hw

theorem Blank.skipSpace_eq {w : List Char} (h : Blank w) : skipSpace w = [] := by
  have := h.skipSpace_append []
  rwa [List.append_nil] at this

theorem skipSpace_cons {c : Char} (h : isSpace c = false) (s : List Char) :
    skipSpace (c :: s) = c :: s := by
  rw [skipSpace, List.dropWhile_cons, if_neg (by simp [h])]

@[simp] theorem readWord_append (word rest : List Char) :
    readWord word (word ++ rest) = .ok rest := by
  induction word with
  | nil => rfl
  | cons c word ih => rw [List.cons_append, readWord, if_pos rfl, ih]

/-! ### Strings -/

theorem readHex_cons {a b c d : Char} {n : Nat} (h : hexNumber? a b c d = some n)
    (s : List Char) : readHex (a :: b :: c :: d :: s) = .ok (n, s) := by
  simp [readHex, h]

theorem readTrailing_pair {a b c d : Char} {n m : Nat} (h : hexNumber? a b c d = some m)
    (hm : isTrailing m = true) (s : List Char) :
    readTrailing n ('\\' :: 'u' :: a :: b :: c :: d :: s) = .ok (pairChar n m, s) := by
  simp [readTrailing, readHex_cons h, hm, bind, Except.bind]

theorem plainEscape?_u : plainEscape? 'u' = none := by decide

theorem ne_u_of_plainEscape? {e c : Char} (h : plainEscape? e = some c) : e ≠ 'u' := by
  rintro rfl
  rw [plainEscape?_u] at h
  cases h

theorem isTrailing_of_isLeading {n : Nat} (h : isLeading n = true) : isTrailing n = false := by
  simp only [isLeading, isTrailing, Bool.and_eq_true, Bool.and_eq_false_iff, decide_eq_true_eq,
    decide_eq_false_iff_not] at h ⊢
  omega

/-- A string is read as what it spells. -/
theorem readStringFrom_spelling {raw cs : List Char} (h : Spelling raw cs) (done rest : List Char)
    {fuel : Nat} (hfuel : raw.length < fuel) :
    readStringFrom done fuel (raw ++ '"' :: rest) =
      .ok (String.ofList (done.reverse ++ cs), rest) := by
  induction h generalizing done fuel with
  | nil =>
      obtain ⟨fuel, rfl⟩ : ∃ k, fuel = k + 1 := ⟨fuel - 1, by omega⟩
      simp [readStringFrom]
  | @plain c raw cs hquote hslash hcontrol _ ih =>
      obtain ⟨fuel, rfl⟩ : ∃ k, fuel = k + 1 := ⟨fuel - 1, by omega⟩
      have hraw : raw.length < fuel := by simp only [List.length_cons] at hfuel; omega
      rw [List.cons_append, readStringFrom, if_neg hquote, if_neg hslash,
        if_neg (by simp [hcontrol]), ih (c :: done) hraw]
      simp
  | @escape e c raw cs he _ ih =>
      obtain ⟨fuel, rfl⟩ : ∃ k, fuel = k + 1 := ⟨fuel - 1, by omega⟩
      have hraw : raw.length < fuel := by simp only [List.length_cons] at hfuel; omega
      have hread : ∀ s, readEscape (e :: s) = .ok (c, s) := fun s => by
        rw [readEscape, if_neg (ne_u_of_plainEscape? he), he]
      rw [List.cons_append, List.cons_append, readStringFrom, if_neg (by decide), if_pos rfl, hread]
      simp only
      rw [ih (c :: done) hraw]
      simp
  | @code a b c d n raw cs hn hlead htrail _ ih =>
      obtain ⟨fuel, rfl⟩ : ∃ k, fuel = k + 1 := ⟨fuel - 1, by omega⟩
      have hraw : raw.length < fuel := by simp only [List.length_cons] at hfuel; omega
      have hread : ∀ s, readEscape ('u' :: a :: b :: c :: d :: s) = .ok (Char.ofNat n, s) :=
        fun s => by
          simp [readEscape, readCode, readHex_cons hn, hlead, htrail, bind, Except.bind]
      simp only [List.cons_append]
      rw [readStringFrom, if_neg (by decide), if_pos rfl, hread]
      simp only
      rw [ih (Char.ofNat n :: done) hraw]
      simp
  | @pair a b c d a' b' c' d' n m raw cs hn hlead hm htrail _ ih =>
      -- two escapes, but one character and one step
      obtain ⟨fuel, rfl⟩ : ∃ k, fuel = k + 1 := ⟨fuel - 1, by omega⟩
      have hraw : raw.length < fuel := by simp only [List.length_cons] at hfuel; omega
      have hread : ∀ s, readEscape ('u' :: a :: b :: c :: d :: '\\' :: 'u' :: a' :: b' :: c' ::
          d' :: s) = .ok (pairChar n m, s) := fun s => by
        simp [readEscape, readCode, readHex_cons hn, hlead, isTrailing_of_isLeading hlead,
          readTrailing_pair hm htrail, bind, Except.bind]
      simp only [List.cons_append]
      rw [readStringFrom, if_neg (by decide), if_pos rfl, hread]
      simp only
      rw [ih (pairChar n m :: done) hraw]
      simp

theorem readString_spelling {raw cs : List Char} (h : Spelling raw cs) (rest : List Char)
    {fuel : Nat} (hfuel : raw.length < fuel) :
    readString fuel (raw ++ '"' :: rest) = .ok (String.ofList cs, rest) :=
  readStringFrom_spelling h [] rest hfuel

theorem skipString_plain {c : Char} (hquote : c ≠ '"') (hslash : c ≠ '\\')
    (hcontrol : isControl c = false) (fuel : Nat) (s : List Char) :
    skipString (fuel + 1) (c :: s) = skipString fuel s := by
  simp [skipString, hquote, hslash, hcontrol]

theorem skipString_escape {e c : Char} (h : plainEscape? e = some c) (fuel : Nat)
    (s : List Char) : skipString (fuel + 1) ('\\' :: e :: s) = skipString fuel s := by
  simp [skipString, h, ne_u_of_plainEscape? h]

theorem skipString_code {a b c d : Char} {n : Nat} (h : hexNumber? a b c d = some n) (fuel : Nat)
    (s : List Char) :
    skipString (fuel + 1) ('\\' :: 'u' :: a :: b :: c :: d :: s) = skipString fuel s := by
  simp [skipString, readHex_cons h]

/-- A string is passed over up to its closing quotation mark. -/
theorem skipString_spelling {raw cs : List Char} (h : Spelling raw cs) (rest : List Char)
    {fuel : Nat} (hfuel : raw.length < fuel) :
    skipString fuel (raw ++ '"' :: rest) = .ok rest := by
  induction h generalizing fuel with
  | nil =>
      obtain ⟨fuel, rfl⟩ : ∃ k, fuel = k + 1 := ⟨fuel - 1, by omega⟩
      simp [skipString]
  | plain hquote hslash hcontrol _ ih =>
      obtain ⟨fuel, rfl⟩ : ∃ k, fuel = k + 1 := ⟨fuel - 1, by omega⟩
      simp only [List.length_cons] at hfuel
      rw [List.cons_append, skipString_plain hquote hslash hcontrol]
      exact ih (by omega)
  | escape he _ ih =>
      obtain ⟨fuel, rfl⟩ : ∃ k, fuel = k + 1 := ⟨fuel - 1, by omega⟩
      simp only [List.length_cons] at hfuel
      rw [List.cons_append, List.cons_append, skipString_escape he]
      exact ih (by omega)
  | code hn _ _ _ ih =>
      obtain ⟨fuel, rfl⟩ : ∃ k, fuel = k + 1 := ⟨fuel - 1, by omega⟩
      simp only [List.length_cons] at hfuel
      simp only [List.cons_append]
      rw [skipString_code hn]
      exact ih (by omega)
  | pair hn _ hm _ _ ih =>
      -- the skipper takes the halves of a pair one at a time
      obtain ⟨fuel, rfl⟩ : ∃ k, fuel = k + 2 := ⟨fuel - 2, by simp at hfuel; omega⟩
      simp only [List.length_cons] at hfuel
      simp only [List.cons_append]
      rw [skipString_code hn, skipString_code hm]
      exact ih (by omega)

/-! ### Numbers -/

/-- The text does not start with a digit. -/
def Digitless (s : List Char) : Prop := ∀ c r, s = c :: r → isDigit c = false

/-- The text starts neither with a digit nor with a point: digits in front of it end there, and no
fraction follows them. -/
def Unpointed (s : List Char) : Prop := ∀ c r, s = c :: r → isDigit c = false ∧ c ≠ '.'

theorem Closes.not_number {c : Char} (h : Closes c) :
    isDigit c = false ∧ c ≠ '.' ∧ c ≠ 'e' ∧ c ≠ 'E' := by
  rcases h with h | rfl | rfl | rfl
  · simp only [isSpace, Bool.or_eq_true, decide_eq_true_eq] at h
    rcases h with ((rfl | rfl) | rfl) | rfl <;> decide
  all_goals decide

theorem ne_of_isDigit {c d : Char} (h : isDigit c = true) (hd : isDigit d = false) : c ≠ d := by
  rintro rfl
  rw [hd] at h
  cases h

theorem isSpace_of_isDigit {c : Char} (h : isDigit c = true) : isSpace c = false := by
  cases hs : isSpace c with
  | false => rfl
  | true =>
      have hclose : Closes c := .inl hs
      rw [hclose.not_number.1] at h
      cases h

theorem Ends.digitless {s : List Char} (h : Ends s) : Digitless s :=
  fun c r hs => (h c r hs).not_number.1

theorem Ends.unpointed {s : List Char} (h : Ends s) : Unpointed s := fun c r hs =>
  ⟨(h c r hs).not_number.1, (h c r hs).not_number.2.1⟩

theorem Unpointed.digitless {s : List Char} (h : Unpointed s) : Digitless s :=
  fun c r hs => (h c r hs).1

/-- A run of digits is split off as a whole. -/
theorem spanDigits_digits {ds s : List Char} (h : AllDigits ds) (hs : Digitless s) :
    spanDigits (ds ++ s) = (ds, s) := by
  induction ds with
  | nil =>
      cases s with
      | nil => rfl
      | cons c r => simp [spanDigits, hs c r rfl]
  | cons d ds ih =>
      have hd : isDigit d = true := h d (by simp)
      have hspan := ih fun c hc => h c (by simp [hc])
      simp only [spanDigits, Prod.mk.injEq] at hspan
      simp [spanDigits, hd, hspan.1, hspan.2]

theorem readWhole_part {w s : List Char} (h : WholePart w) (hs : Digitless s) :
    readWhole (w ++ s) = .ok (w, s) := by
  cases h with
  | zero =>
      cases s with
      | nil => rfl
      | cons c r => simp [readWhole, hs c r rfl]
  | @digits d ds hd hzero hds =>
      have hspan : spanDigits (d :: ds ++ s) = (d :: ds, s) :=
        spanDigits_digits (fun c hc => by
          rcases List.mem_cons.mp hc with rfl | hc
          · exact hd
          · exact hds c hc) hs
      rw [List.cons_append] at hspan ⊢
      simp [readWhole, hzero, hd, hspan]

theorem skipWhole_part {w s : List Char} (h : WholePart w) (hs : Digitless s) :
    skipWhole (w ++ s) = .ok s := by
  cases h with
  | zero =>
      cases s with
      | nil => rfl
      | cons c r => simp [skipWhole, hs c r rfl]
  | digits hd hzero hds => simp [skipWhole, hzero, hd, spanDigits_digits hds hs]

theorem readFraction_part {f s : List Char} {fraction : Option (List Char)}
    (h : FractionPart f fraction) (hs : Unpointed s) :
    readFraction (f ++ s) = .ok (fraction, s) := by
  cases h with
  | absent =>
      rw [List.nil_append]
      unfold readFraction
      split
      · exact absurd rfl (hs _ _ rfl).2
      · rfl
  | point hne hds => simp [readFraction, spanDigits_digits hds hs.digitless, hne]

theorem skipFraction_part {f s : List Char} {fraction : Option (List Char)}
    (h : FractionPart f fraction) (hs : Unpointed s) :
    skipFraction (f ++ s) = .ok s := by
  cases h with
  | absent =>
      rw [List.nil_append]
      unfold skipFraction
      split
      · exact absurd rfl (hs _ _ rfl).2
      · rfl
  | point hne hds => simp [skipFraction, spanDigits_digits hds hs.digitless, hne]

theorem readSign_part {sign : List Char} {down : Bool} (h : SignPart sign down) {d : Char}
    (hd : isDigit d = true) (s : List Char) : readSign (sign ++ d :: s) = (down, d :: s) := by
  cases h with
  | plus => rfl
  | minus => rfl
  | absent =>
      -- a digit is neither of the signs
      rw [List.nil_append]
      unfold readSign
      split
      · next h =>
          obtain rfl := (List.cons.inj h).1
          exact absurd hd (by decide)
      · next h =>
          obtain rfl := (List.cons.inj h).1
          exact absurd hd (by decide)
      · rfl

theorem readExponent_part {x s : List Char} {exponent : Option (Bool × List Char)}
    (h : ExponentPart x exponent) (hs : Ends s) : readExponent (x ++ s) = .ok (exponent, s) := by
  cases h with
  | absent =>
      cases s with
      | nil => rfl
      | cons c r =>
          obtain ⟨-, -, he, he'⟩ := (hs c r rfl).not_number
          simp [readExponent, he, he']
  | @mark e sign ds down he hsign hne hds =>
      obtain ⟨d, ds, rfl⟩ := List.exists_cons_of_ne_nil hne
      have hd : isDigit d = true := hds d (by simp)
      have hspan := spanDigits_digits hds hs.digitless
      rw [List.cons_append] at hspan
      simp [readExponent, he, readSign_part hsign hd, hd, hspan]

theorem skipExponent_part {x s : List Char} {exponent : Option (Bool × List Char)}
    (h : ExponentPart x exponent) (hs : Ends s) : skipExponent (x ++ s) = .ok s := by
  cases h with
  | absent =>
      cases s with
      | nil => rfl
      | cons c r =>
          obtain ⟨-, -, he, he'⟩ := (hs c r rfl).not_number
          simp [skipExponent, he, he']
  | @mark e sign ds down he hsign hne hds =>
      obtain ⟨d, ds, rfl⟩ := List.exists_cons_of_ne_nil hne
      have hd : isDigit d = true := hds d (by simp)
      have hds' : AllDigits ds := fun c hc => hds c (by simp [hc])
      have hspan := spanDigits_digits hds' hs.digitless
      simp [skipExponent, he, readSign_part hsign hd, hd, hspan]

theorem ExponentPart.unpointed {x s : List Char} {exponent : Option (Bool × List Char)}
    (h : ExponentPart x exponent) (hs : Ends s) : Unpointed (x ++ s) := by
  cases h with
  | absent => exact hs.unpointed
  | mark he _ _ _ =>
      intro c r hc
      obtain rfl := (List.cons.inj hc).1
      rcases he with rfl | rfl <;> decide

theorem FractionPart.digitless {f s : List Char} {fraction : Option (List Char)}
    (h : FractionPart f fraction) (hs : Unpointed s) : Digitless (f ++ s) := by
  cases h with
  | absent => exact hs.digitless
  | point _ _ =>
      intro c r hc
      obtain rfl := (List.cons.inj hc).1
      decide

theorem realNumber_eq {negative : Bool} {m : Nat} {e : Int} {n : Number}
    (h : Number.ofReal? negative m e = some n) (rest : List Char) :
    realNumber negative m e rest = .ok (n, rest) := by
  unfold Number.ofReal? at h
  unfold realNumber
  obtain ⟨x, hx, rfl⟩ := Option.map_eq_some_iff.mp h
  rw [hx]

theorem wholeNumber_eq {negative : Bool} {m : Nat} {n : Number}
    (h : Number.ofWhole? negative m = some n) (rest : List Char) :
    wholeNumber negative m rest = .ok (n, rest) := by
  unfold Number.ofWhole? at h
  unfold wholeNumber
  cases negative with
  | false =>
      rw [if_pos rfl] at h
      obtain rfl := Option.some.inj h
      rfl
  | true =>
      rw [if_neg (by decide)] at h
      rw [if_pos rfl]
      split at h
      · next hm =>
          rw [if_pos hm]
          exact realNumber_eq h rest
      · next hm =>
          rw [if_neg hm]
          obtain rfl := Option.some.inj h
          rfl

/-- A number is read as what its parts write. -/
theorem readNumber_magnitude {negative : Bool} {s rest : List Char} {n : Number}
    (h : Magnitude negative s n) (hrest : Ends rest) :
    readNumber negative (s ++ rest) = .ok (n, rest) := by
  obtain @⟨w, f, x, fraction, exponent, _, hw, hf, hx, hn⟩ := h
  have hafter := hx.unpointed hrest
  simp only [List.append_assoc, readNumber, readWhole_part hw (hf.digitless hafter),
    readFraction_part hf hafter, readExponent_part hx hrest, bind, Except.bind]
  unfold Number.ofParts? at hn
  cases exponent with
  | none =>
      cases fraction with
      | none =>
          simp only at hn ⊢
          split at hn
          · next hd => rw [if_pos hd, wholeNumber_eq hn]
          · next hd => rw [if_neg hd, realNumber_eq hn]
      | some ds => exact realNumber_eq hn rest
  | some exponent =>
      obtain ⟨down, es⟩ := exponent
      simp only at hn ⊢
      cases hvalue : exponentValue 0 es with
      | inl e =>
          simp only [hvalue] at hn
          exact realNumber_eq hn rest
      | inr after =>
          -- an exponent that is out of range leaves room for a zero only
          simp only [hvalue] at hn ⊢
          split at hn
          · cases hn
          · next hm => rw [if_neg hm, realNumber_eq hn]

/-- What is read as a number is passed over as one. -/
theorem skipNumber_magnitude {negative : Bool} {s rest : List Char} {n : Number}
    (h : Magnitude negative s n) (hrest : Ends rest) :
    skipNumber (s ++ rest) = .ok rest := by
  obtain ⟨hw, hf, hx, -⟩ := h
  have hafter := hx.unpointed hrest
  simp only [List.append_assoc, skipNumber, skipWhole_part hw (hf.digitless hafter),
    skipFraction_part hf hafter, skipExponent_part hx hrest, bind, Except.bind]

/-! ### Lists and objects -/

theorem Value.Opens.isSpace_eq {v : Value} {c : Char} (h : v.Opens c) : isSpace c = false := by
  cases v with
  | flag b => cases b <;> (obtain rfl := h; decide)
  | number n =>
      rcases h with rfl | h
      · decide
      · exact isSpace_of_isDigit h
  | _ => obtain rfl := h; decide

theorem Value.Opens.not_closes {v : Value} {c : Char} (h : v.Opens c) : ¬ Closes c := by
  rintro (hs | hc)
  · rw [h.isSpace_eq] at hs
    cases hs
  · have hdigit : isDigit c = false := (Closes.not_number (.inr hc)).1
    cases v with
    | flag b => cases b <;> (obtain rfl := h; revert hc; decide)
    | number n =>
        rcases h with rfl | h
        · revert hc
          decide
        · rw [hdigit] at h
          cases h
    | _ => obtain rfl := h; revert hc; decide

/-- After the lead of an element, white space skipped, stands its value. -/
theorem nextItem_lead {first : Bool} {lead : List Char} (hlead : Lead first lead) {v : Value}
    {c : Char} (hc : v.Opens c) (s : List Char) :
    nextItem first (lead ++ c :: s) = .ok (some (c :: s)) := by
  have hskip := skipSpace_cons hc.isSpace_eq s
  have hend : c ≠ ']' := fun h => hc.not_closes (.inr (.inr (.inl h)))
  cases hlead with
  | first hw => simp [nextItem, hw.skipSpace_append, hskip, hend]
  | @next w w' hw hw' =>
      have hcomma : skipSpace (',' :: (w' ++ c :: s)) = ',' :: (w' ++ c :: s) :=
        skipSpace_cons (by decide) _
      simp [nextItem, hw.skipSpace_append, hcomma, hw'.skipSpace_append, hskip, hend]

theorem nextItem_end {w : List Char} (hw : Blank w) (first : Bool) (s : List Char) :
    nextItem first (w ++ ']' :: s) = .ok none := by
  have hskip : skipSpace (']' :: s) = ']' :: s := skipSpace_cons (by decide) s
  simp [nextItem, hw.skipSpace_append, hskip]

theorem closeList_end {w : List Char} (hw : Blank w) (s : List Char) :
    closeList (w ++ ']' :: s) = .ok s := by
  have hskip : skipSpace (']' :: s) = ']' :: s := skipSpace_cons (by decide) s
  simp [closeList, hw.skipSpace_append, hskip]

/-- A list cannot be closed in front of another element. -/
theorem closeList_lead {first : Bool} {lead : List Char} (hlead : Lead first lead) {v : Value}
    {c : Char} (hc : v.Opens c) (s : List Char) :
    ∃ e, closeList (lead ++ c :: s) = .error e := by
  have hskip := skipSpace_cons hc.isSpace_eq s
  have hend : c ≠ ']' := fun h => hc.not_closes (.inr (.inr (.inl h)))
  have hcomma : c ≠ ',' := fun h => hc.not_closes (.inr (.inl h))
  cases hlead with
  | first hw => simp [closeList, hw.skipSpace_append, hskip, hend, hcomma]
  | @next w w' hw hw' =>
      have hskip' : skipSpace (',' :: (w' ++ c :: s)) = ',' :: (w' ++ c :: s) :=
        skipSpace_cons (by decide) _
      simp [closeList, hw.skipSpace_append, hskip', hw'.skipSpace_append, hskip, hend]

theorem nextKey_lead {first : Bool} {lead : List Char} (hlead : Lead first lead) (s : List Char) :
    nextKey first (lead ++ '"' :: s) = .ok (some s) := by
  have hskip : skipSpace ('"' :: s) = '"' :: s := skipSpace_cons (by decide) s
  cases hlead with
  | first hw =>
      rw [nextKey, hw.skipSpace_append, hskip]
      rfl
  | @next w w' hw hw' =>
      have hskip' : skipSpace (',' :: (w' ++ '"' :: s)) = ',' :: (w' ++ '"' :: s) :=
        skipSpace_cons (by decide) _
      rw [List.append_assoc, List.cons_append, nextKey, hw.skipSpace_append, hskip']
      simp only
      rw [hw'.skipSpace_append, hskip]
      rfl

theorem skipSpace_end {w : List Char} (hw : Blank w) (s : List Char) :
    skipSpace (w ++ Char.ofNat 0x7D :: s) = Char.ofNat 0x7D :: s := by
  rw [hw.skipSpace_append, skipSpace_cons (by decide)]

theorem nextKey_end {w : List Char} (hw : Blank w) (first : Bool) (s : List Char) :
    nextKey first (w ++ Char.ofNat 0x7D :: s) = .ok none := by
  rw [nextKey, skipSpace_end hw]
  rfl

theorem readColon_colon {w : List Char} (hw : Blank w) (s : List Char) :
    readColon (w ++ ':' :: s) = .ok s := by
  have hskip : skipSpace (':' :: s) = ':' :: s := skipSpace_cons (by decide) s
  simp [readColon, hw.skipSpace_append, hskip]

theorem closeText_blank {w : List Char} (hw : Blank w) : closeText w = .ok () := by
  rw [closeText, hw.skipSpace_eq]

end RailWatch.Json

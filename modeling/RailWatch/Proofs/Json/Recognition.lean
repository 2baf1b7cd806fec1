import RailWatch.Proofs.Json.Reader
/-!
# RailWatch.Proofs.Json.Recognition

The reader of JSON accepts the JSON texts and no others.

`RailWatch.Proofs.Json.Reader` reads every text of the grammar. Here a text that was read is taken
apart into what the grammar asks for, token by token and then, by induction on the fuel, value by
value. `Value.read_eq_ok_iff` puts the two together.
-/

namespace RailWatch.Json

open Text

/-! ### Tokens -/

theorem exists_blank (s : List Char) : ∃ w, Blank w ∧ s = w ++ skipSpace s :=
  ⟨s.takeWhile isSpace, fun _ hc => List.all_eq_true.mp List.all_takeWhile _ hc,
    List.takeWhile_append_dropWhile.symm⟩

theorem Blank.append {w w' : List Char} (h : Blank w) (h' : Blank w') : Blank (w ++ w') := by
  intro c hc
  rcases List.mem_append.mp hc with hc | hc
  · exact h c hc
  · exact h' c hc

/-- White space after a lead belongs to it. -/
theorem Lead.append {first : Bool} {lead w : List Char} (h : Lead first lead) (hw : Blank w) :
    Lead first (lead ++ w) := by
  cases h with
  | first h => exact .first (h.append hw)
  | next h h' =>
      rw [List.append_assoc, List.cons_append]
      exact .next h (h'.append hw)

theorem eq_append_of_readWord {word s rest : List Char} (h : readWord word s = .ok rest) :
    s = word ++ rest := by
  induction word generalizing s with
  | nil =>
      rw [readWord] at h
      exact Except.ok.inj h
  | cons d word ih =>
      cases s with
      | nil => cases h
      | cons c s =>
          rw [readWord] at h
          split at h
          · next hc => rw [hc, ih h, List.cons_append]
          · cases h

theorem readHex_eq_ok {s rest : List Char} {n : Nat} (h : readHex s = .ok (n, rest)) :
    ∃ a b c d, hexNumber? a b c d = some n ∧ s = a :: b :: c :: d :: rest := by
  unfold readHex at h
  split at h
  · next a b c d r =>
      split at h
      · next m hm =>
          cases h
          exact ⟨a, b, c, d, hm, rfl⟩
      · cases h
  · cases h

theorem readTrailing_eq_ok {n : Nat} {s rest : List Char} {c : Char}
    (h : readTrailing n s = .ok (c, rest)) :
    ∃ a b c' d m, hexNumber? a b c' d = some m ∧ isTrailing m = true ∧ c = pairChar n m ∧
      s = '\\' :: 'u' :: a :: b :: c' :: d :: rest := by
  unfold readTrailing at h
  split at h
  · cases h
  · next e s =>
      split at h
      · next he =>
          split at h
          · cases h
          · next d s' =>
              split at h
              · next hd =>
                  cases hhex : readHex s' with
                  | error f => simp [hhex, bind, Except.bind] at h
                  | ok result =>
                      obtain ⟨m, r⟩ := result
                      obtain ⟨a, b, c', d', hm, rfl⟩ := readHex_eq_ok hhex
                      simp only [hhex, bind, Except.bind] at h
                      split at h
                      · next htrail =>
                          obtain ⟨rfl, rfl⟩ := Prod.mk.inj (Except.ok.inj h)
                          exact ⟨a, b, c', d', m, hm, htrail, rfl, by rw [he, hd]⟩
                      · cases h
              · cases h
      · cases h

/-- An escape that was read is one of the three kinds. -/
theorem spelling_of_readEscape {s rest raw cs : List Char} {c : Char}
    (h : readEscape s = .ok (c, rest)) (hraw : Spelling raw cs) :
    ∃ e, s = e ++ rest ∧ Spelling ('\\' :: (e ++ raw)) (c :: cs) := by
  unfold readEscape at h
  split at h
  · cases h
  · next e s =>
      split at h
      · next he =>
          unfold readCode at h
          cases hhex : readHex s with
          | error f => simp [hhex, bind, Except.bind] at h
          | ok result =>
              obtain ⟨n, r⟩ := result
              obtain ⟨x, y, z, d, hn, rfl⟩ := readHex_eq_ok hhex
              simp only [hhex, bind, Except.bind] at h
              split at h
              · cases h
              · next htrail =>
                  split at h
                  · next hlead =>
                      obtain ⟨x', y', z', d', m, hm, htrail', hc, hr⟩ := readTrailing_eq_ok h
                      rw [hc]
                      exact ⟨['u', x, y, z, d, '\\', 'u', x', y', z', d'], by simp [he, hr],
                        .pair hn hlead hm htrail' hraw⟩
                  · next hlead =>
                      obtain ⟨rfl, rfl⟩ := Prod.mk.inj (Except.ok.inj h)
                      exact ⟨['u', x, y, z, d], by simp [he],
                        .code hn (by simpa using hlead) (by simpa using htrail) hraw⟩
      · next he =>
          split at h
          · next d hd =>
              cases h
              exact ⟨[e], rfl, .escape hd hraw⟩
          · cases h

theorem spelling_of_readStringFrom {done s rest : List Char} {t : String} {fuel : Nat}
    (h : readStringFrom done fuel s = .ok (t, rest)) :
    ∃ raw cs, Spelling raw cs ∧ s = raw ++ '"' :: rest ∧
      t = String.ofList (done.reverse ++ cs) := by
  induction fuel generalizing done s with
  | zero => cases h
  | succ fuel ih =>
      cases s with
      | nil => cases h
      | cons c s =>
          rw [readStringFrom] at h
          split at h
          · next hc =>
              cases h
              exact ⟨[], [], .nil, by rw [hc, List.nil_append], by rw [List.append_nil]⟩
          · next hquote =>
              split at h
              · next hslash =>
                  split at h
                  · next d s' he =>
                      obtain ⟨raw, cs, hraw, rfl, rfl⟩ := ih h
                      obtain ⟨e, rfl, hspell⟩ := spelling_of_readEscape he hraw
                      exact ⟨_, _, hspell, by simp [hslash], by simp⟩
                  · cases h
              · next hslash =>
                  split at h
                  · cases h
                  · next hcontrol =>
                      obtain ⟨raw, cs, hraw, rfl, rfl⟩ := ih h
                      exact ⟨_, _, .plain hquote hslash (by simpa using hcontrol) hraw, by simp,
                        by simp⟩

/-! ### Numbers -/

theorem allDigits_spanDigits (s : List Char) : AllDigits (spanDigits s).1 := fun _ hd =>
  List.all_eq_true.mp (spanDigits_all s) _ hd

theorem wholePart_of_readWhole {s rest w : List Char} (h : readWhole s = .ok (w, rest)) :
    WholePart w ∧ s = w ++ rest := by
  unfold readWhole at h
  split at h
  · cases h
  · next c s =>
      split at h
      · next hzero =>
          split at h
          · split at h
            · cases h
            · cases h
              rw [hzero]
              exact ⟨.zero, rfl⟩
          · cases h
            rw [hzero]
            exact ⟨.zero, rfl⟩
      · next hzero =>
          split at h
          · next hd =>
              have hspan : spanDigits (c :: s) = (w, rest) := Except.ok.inj h
              have hhead : (spanDigits (c :: s)).1 = c :: (spanDigits s).1 := by
                simp [spanDigits, hd]
              have happend := spanDigits_append (c :: s)
              rw [hspan] at hhead happend
              refine ⟨?_, happend.symm⟩
              rw [show w = _ from hhead]
              exact .digits hd hzero (allDigits_spanDigits s)
          · cases h

theorem fractionPart_of_readFraction {s rest : List Char} {fraction : Option (List Char)}
    (h : readFraction s = .ok (fraction, rest)) :
    ∃ f, FractionPart f fraction ∧ s = f ++ rest := by
  unfold readFraction at h
  split at h
  · next s =>
      simp only at h
      split at h
      · split at h <;> cases h
      · next hne =>
          obtain ⟨rfl, rfl⟩ := Prod.mk.inj (Except.ok.inj h)
          refine ⟨_, .point (by simpa using hne) (allDigits_spanDigits s), ?_⟩
          rw [List.cons_append, spanDigits_append]
  · cases h
    exact ⟨[], .absent, rfl⟩

theorem signPart_readSign (s : List Char) :
    ∃ sign, SignPart sign (readSign s).1 ∧ s = sign ++ (readSign s).2 := by
  unfold readSign
  split
  · exact ⟨_, .plus, rfl⟩
  · exact ⟨_, .minus, rfl⟩
  · exact ⟨_, .absent, rfl⟩

theorem exponentPart_of_readExponent {s rest : List Char} {exponent : Option (Bool × List Char)}
    (h : readExponent s = .ok (exponent, rest)) :
    ∃ x, ExponentPart x exponent ∧ s = x ++ rest := by
  unfold readExponent at h
  split at h
  · next c s =>
      split at h
      · next he =>
          obtain ⟨sign, hsign, hs⟩ := signPart_readSign s
          simp only at h
          split at h
          · cases h
          · next d r hr =>
              split at h
              · next hd =>
                  obtain ⟨rfl, rfl⟩ := Prod.mk.inj (Except.ok.inj h)
                  refine ⟨_, .mark (by simpa using he) hsign ?_ (allDigits_spanDigits (d :: r)), ?_⟩
                  · simp [spanDigits, hd]
                  · rw [hr] at hs
                    rw [hs, List.cons_append, List.append_assoc, spanDigits_append]
              · cases h
      · cases h
        exact ⟨[], .absent, rfl⟩
  · cases h
    exact ⟨[], .absent, rfl⟩

theorem ofReal?_of_realNumber {negative : Bool} {m : Nat} {e : Int} {n : Number}
    {s rest : List Char} (h : realNumber negative m e s = .ok (n, rest)) :
    Number.ofReal? negative m e = some n ∧ s = rest := by
  unfold realNumber at h
  unfold Number.ofReal?
  split at h
  · next x hx =>
      cases h
      rw [hx]
      exact ⟨rfl, rfl⟩
  · cases h

theorem ofWhole?_of_wholeNumber {negative : Bool} {m : Nat} {n : Number} {s rest : List Char}
    (h : wholeNumber negative m s = .ok (n, rest)) :
    Number.ofWhole? negative m = some n ∧ s = rest := by
  unfold wholeNumber at h
  unfold Number.ofWhole?
  cases negative with
  | false =>
      cases h
      exact ⟨rfl, rfl⟩
  | true =>
      rw [if_pos rfl] at h
      rw [if_neg (by decide)]
      split at h
      · next hm =>
          rw [if_pos hm]
          exact ofReal?_of_realNumber h
      · next hm =>
          rw [if_neg hm]
          cases h
          exact ⟨rfl, rfl⟩

theorem magnitude_of_readNumber {negative : Bool} {s rest : List Char} {n : Number}
    (h : readNumber negative s = .ok (n, rest)) :
    ∃ m, Magnitude negative m n ∧ s = m ++ rest := by
  unfold readNumber at h
  cases hwhole : readWhole s with
  | error e => simp [hwhole, bind, Except.bind] at h
  | ok result =>
      obtain ⟨w, s₁⟩ := result
      obtain ⟨hw, rfl⟩ := wholePart_of_readWhole hwhole
      cases hfraction : readFraction s₁ with
      | error e => simp [hwhole, hfraction, bind, Except.bind] at h
      | ok result =>
          obtain ⟨fraction, s₂⟩ := result
          obtain ⟨f, hf, rfl⟩ := fractionPart_of_readFraction hfraction
          cases hexponent : readExponent s₂ with
          | error e => simp [hwhole, hfraction, hexponent, bind, Except.bind] at h
          | ok result =>
              obtain ⟨exponent, s₃⟩ := result
              obtain ⟨x, hx, rfl⟩ := exponentPart_of_readExponent hexponent
              simp only [hwhole, hfraction, hexponent, bind, Except.bind] at h
              -- what the reader works out from the parts is what they write
              have hn : Number.ofParts? negative w fraction exponent = some n ∧ s₃ = rest := by
                unfold Number.ofParts?
                cases exponent with
                | none =>
                    cases fraction with
                    | none =>
                        simp only at h ⊢
                        split at h
                        · next hd =>
                            rw [if_pos hd]
                            exact ofWhole?_of_wholeNumber h
                        · next hd =>
                            rw [if_neg hd]
                            exact ofReal?_of_realNumber h
                    | some ds => exact ofReal?_of_realNumber h
                | some exponent =>
                    obtain ⟨down, es⟩ := exponent
                    simp only at h ⊢
                    cases hvalue : exponentValue 0 es with
                    | inl e =>
                        simp only [hvalue] at h
                        exact ofReal?_of_realNumber h
                    | inr after =>
                        simp only [hvalue] at h ⊢
                        split at h
                        · cases h
                        · next hm =>
                            rw [if_neg hm]
                            exact ofReal?_of_realNumber h
              obtain ⟨hn, rfl⟩ := hn
              exact ⟨w ++ (f ++ x), .mk hw hf hx hn, by simp⟩

/-! ### Lists and objects -/

theorem lead_of_nextItem {first : Bool} {s s' : List Char}
    (h : nextItem first s = .ok (some s')) : ∃ lead, Lead first lead ∧ s = lead ++ s' := by
  obtain ⟨w, hw, hs⟩ := exists_blank s
  unfold nextItem at h
  split at h
  · cases h
  · next c r hskip =>
      rw [hskip] at hs
      split at h
      · cases h
      · split at h
        · next hfirst =>
            cases h
            rw [hfirst]
            exact ⟨w, .first hw, hs⟩
        · next hfirst =>
            rw [Bool.not_eq_true] at hfirst
            split at h
            · next hcomma =>
                obtain ⟨w', hw', hr⟩ := exists_blank r
                split at h
                · cases h
                · next d r' hskip' =>
                    rw [hskip'] at hr
                    split at h
                    · cases h
                    · cases h
                      rw [hfirst, hs, hr, hcomma]
                      exact ⟨w ++ ',' :: w', .next hw hw', by simp⟩
            · cases h

theorem lead_of_nextKey {first : Bool} {s s' : List Char}
    (h : nextKey first s = .ok (some s')) :
    ∃ lead, Lead first lead ∧ s = lead ++ '"' :: s' := by
  obtain ⟨w, hw, hs⟩ := exists_blank s
  unfold nextKey at h
  split at h
  · cases h
  · next c r hskip =>
      rw [hskip] at hs
      split at h
      · cases h
      · split at h
        · next hfirst =>
            split at h
            · next hc =>
                cases h
                rw [hfirst]
                rw [hc] at hs
                exact ⟨w, .first hw, hs⟩
            · cases h
        · next hfirst =>
            rw [Bool.not_eq_true] at hfirst
            split at h
            · next hcomma =>
                obtain ⟨w', hw', hr⟩ := exists_blank r
                split at h
                · cases h
                · next d r' hskip' =>
                    rw [hskip'] at hr
                    split at h
                    · next hd =>
                        cases h
                        rw [hfirst, hs, hr, hcomma, hd]
                        exact ⟨w ++ ',' :: w', .next hw hw', by simp⟩
                    · split at h <;> cases h
            · cases h

theorem end_of_nextKey {first : Bool} {s : List Char} (h : nextKey first s = .ok none) :
    ∃ w, Blank w ∧ s = w ++ Char.ofNat 0x7D :: (skipSpace s).drop 1 := by
  obtain ⟨w, hw, hs⟩ := exists_blank s
  refine ⟨w, hw, ?_⟩
  unfold nextKey at h
  split at h
  · cases h
  · next c r hskip =>
      rw [hskip] at hs ⊢
      split at h
      · next hc =>
          rw [hc] at hs
          exact hs
      · split at h
        · split at h <;> cases h
        · split at h
          · split at h
            · cases h
            · split at h
              · cases h
              · split at h <;> cases h
          · cases h

theorem end_of_closeList {s rest : List Char} (h : closeList s = .ok rest) :
    ∃ w, Blank w ∧ s = w ++ ']' :: rest := by
  obtain ⟨w, hw, hs⟩ := exists_blank s
  unfold closeList at h
  split at h
  · cases h
  · next c r hskip =>
      rw [hskip] at hs
      split at h
      · next hc =>
          cases h
          rw [hc] at hs
          exact ⟨w, hw, hs⟩
      · split at h
        · split at h
          · split at h <;> cases h
          · cases h
        · cases h

theorem colon_of_readColon {s rest : List Char} (h : readColon s = .ok rest) :
    ∃ w, Blank w ∧ s = w ++ ':' :: rest := by
  obtain ⟨w, hw, hs⟩ := exists_blank s
  unfold readColon at h
  split at h
  · cases h
  · next c r hskip =>
      rw [hskip] at hs
      split at h
      · next hc =>
          cases h
          rw [hc] at hs
          exact ⟨w, hw, hs⟩
      · cases h

theorem blank_of_closeText {s : List Char} (h : closeText s = .ok ()) : Blank s := by
  obtain ⟨w, hw, hs⟩ := exists_blank s
  unfold closeText at h
  split at h
  · next hskip =>
      rw [hskip, List.append_nil] at hs
      rw [hs]
      exact hw
  · cases h

/-! ### Values -/

theorem exists_of_map_eq_ok {α β : Type} {x : Except Fault α} {f : α → β} {b : β}
    (h : x.map f = .ok b) : ∃ a, x = .ok a ∧ f a = b := by
  cases x with
  | error e => cases h
  | ok a => exact ⟨a, rfl, Except.ok.inj h⟩

theorem writes_of_readScalar {c : Char} {s rest : List Char} {v : Value} {fuel : Nat}
    (h : readScalar fuel (c :: s) = .ok (v, rest)) :
    ∃ t, Writes (.value v) t ∧ c :: s = t ++ rest := by
  unfold readScalar at h
  simp only at h
  split at h
  · next hc =>
      obtain ⟨r, hr, h⟩ := exists_of_map_eq_ok h
      cases h
      exact ⟨_, .null, by rw [hc, eq_append_of_readWord hr]; rfl⟩
  split at h
  · next hc =>
      obtain ⟨r, hr, h⟩ := exists_of_map_eq_ok h
      cases h
      exact ⟨_, .yes, by rw [hc, eq_append_of_readWord hr]; rfl⟩
  split at h
  · next hc =>
      obtain ⟨r, hr, h⟩ := exists_of_map_eq_ok h
      cases h
      exact ⟨_, .no, by rw [hc, eq_append_of_readWord hr]; rfl⟩
  split at h
  · next hc =>
      obtain ⟨⟨n, r⟩, hr, h⟩ := exists_of_map_eq_ok h
      cases h
      obtain ⟨m, hm, hs⟩ := magnitude_of_readNumber hr
      exact ⟨_, .negative hm, by rw [hc, hs]; rfl⟩
  split at h
  · next hc =>
      obtain ⟨⟨n, r⟩, hr, h⟩ := exists_of_map_eq_ok h
      cases h
      obtain ⟨m, hm, hs⟩ := magnitude_of_readNumber hr
      exact ⟨m, .positive hm, hs⟩
  split at h
  · next hc =>
      obtain ⟨⟨t, r⟩, hr, h⟩ := exists_of_map_eq_ok h
      cases h
      obtain ⟨raw, cs, hraw, hs, rfl⟩ := spelling_of_readStringFrom hr
      exact ⟨_, .text hraw, by rw [hc, hs]; simp⟩
  · cases h

/-- What the readers of values, elements and members accept with this fuel. -/
structure Recognizes (fuel : Nat) : Prop where
  value {s rest : List Char} {v : Value} : readValue fuel s = .ok (v, rest) →
    ∃ w t, Blank w ∧ Writes (.value v) t ∧ s = w ++ (t ++ rest)
  items {done vs : List Value} {first : Bool} {s rest : List Char} :
    readItems done fuel first s = .ok (vs, rest) →
    ∃ more t, Writes (.items first more) t ∧ vs = done.reverse ++ more ∧ s = t ++ rest
  members {done ms : List (String × Value)} {first : Bool} {s rest : List Char} :
    readMembers done fuel first s = .ok (ms, rest) →
    ∃ more t, Writes (.members first more) t ∧ ms = done.reverse ++ more ∧ s = t ++ rest

theorem recognizes (fuel : Nat) : Recognizes fuel := by
  induction fuel with
  | zero =>
      constructor
      · intro s rest v h
        cases h
      · intro done vs first s rest h
        cases h
      · intro done ms first s rest h
        cases h
  | succ fuel ih =>
      constructor
      · intro s rest v h
        obtain ⟨w, hw, hs⟩ := exists_blank s
        rw [readValue] at h
        cases hskip : skipSpace s with
        | nil =>
            rw [hskip] at h
            cases h
        | cons c r =>
            rw [hskip] at h hs
            simp only at h
            split at h
            · next hc =>
                obtain ⟨⟨vs, r'⟩, hr, h⟩ := exists_of_map_eq_ok h
                cases h
                obtain ⟨more, t, ht, rfl, rfl⟩ := ih.items hr
                exact ⟨w, '[' :: t, hw, .list ht, by rw [hs, hc]; rfl⟩
            · split at h
              · next hc =>
                  obtain ⟨⟨ms, r'⟩, hr, h⟩ := exists_of_map_eq_ok h
                  cases h
                  obtain ⟨more, t, ht, rfl, rfl⟩ := ih.members hr
                  exact ⟨w, Char.ofNat 0x7B :: t, hw, .object ht, by rw [hs, hc]; rfl⟩
              · obtain ⟨t, ht, hr⟩ := writes_of_readScalar h
                exact ⟨w, t, hw, ht, by rw [hs, hr]⟩
      · intro done vs first s rest h
        rw [readItems] at h
        split at h
        · cases h
        · obtain ⟨r, hr, h⟩ := exists_of_map_eq_ok h
          cases h
          obtain ⟨w, hw, rfl⟩ := end_of_closeList hr
          exact ⟨[], w ++ [']'], .listEnd hw, by simp, by simp⟩
        · next s' hnext =>
            obtain ⟨lead, hlead, rfl⟩ := lead_of_nextItem hnext
            split at h
            · cases h
            · next v r hv =>
                -- the space in front of the value goes to the lead
                obtain ⟨w, t, hw, ht, rfl⟩ := ih.value hv
                obtain ⟨more, t', ht', rfl, rfl⟩ := ih.items h
                exact ⟨v :: more, (lead ++ w) ++ (t ++ t'), .item (hlead.append hw) ht ht',
                  by simp, by simp⟩
      · intro done ms first s rest h
        rw [readMembers] at h
        split at h
        · cases h
        · next hnext =>
            cases h
            obtain ⟨w, hw, hs⟩ := end_of_nextKey hnext
            exact ⟨[], w ++ [Char.ofNat 0x7D], .objectEnd hw, by simp, by simpa using hs⟩
        · next s' hnext =>
            obtain ⟨lead, hlead, rfl⟩ := lead_of_nextKey hnext
            split at h
            · cases h
            · next key r hkey =>
                obtain ⟨raw, cs, hraw, rfl, rfl⟩ := spelling_of_readStringFrom hkey
                split at h
                · cases h
                · next r' hcolon =>
                    obtain ⟨w, hw, rfl⟩ := colon_of_readColon hcolon
                    split at h
                    · cases h
                    · next v r'' hv =>
                        obtain ⟨w', t, hw', ht, rfl⟩ := ih.value hv
                        obtain ⟨more, t', ht', rfl, rfl⟩ := ih.members h
                        exact ⟨_, _, .member hlead hraw hw hw' ht ht', by simp, by simp⟩

theorem denotes_of_read {text : List Char} {v : Value} (h : Value.read text = .ok v) :
    Denotes text v := by
  unfold Value.read at h
  cases hread : readValue (fuelFor text) text with
  | error e => simp [hread, bind, Except.bind] at h
  | ok result =>
      obtain ⟨v', rest⟩ := result
      simp only [hread, bind, Except.bind] at h
      cases hclose : closeText rest with
      | error e => simp [hclose] at h
      | ok _ =>
          simp only [hclose, pure, Except.pure] at h
          cases h
          obtain ⟨w, t, hw, ht, rfl⟩ := (recognizes _).value hread
          exact ⟨w, t, rest, hw, ht, blank_of_closeText hclose, rfl⟩

/-- **The reader accepts the JSON texts and no others**, each with the value that it denotes. -/
theorem Value.read_eq_ok_iff {text : List Char} {v : Value} :
    Value.read text = .ok v ↔ Denotes text v :=
  ⟨denotes_of_read, Value.read_of_denotes⟩

end RailWatch.Json

import RailWatch.Payload.Scan
import RailWatch.Proofs.Json.Reader
import RailWatch.Proofs.Payload.MemberOrder
/-!
# RailWatch.Proofs.Payload.Agreement

Reading a shape from a text and taking it from the value of the text give the same data.

The two ways share no code. One goes through the text and stops at the first fault; the other goes
through the members of a value in the order of their keys. `agrees_of_writes` shows, by induction on
the grammar, that for every shape either both give the same data or neither gives any. What the
induction needs to know of an object half read is that the fields of all keys still to come are
unseen (`Fields.Awaits`): that is where it matters that no key is given twice.
-/

namespace RailWatch.Payload

open Json Text

/-! ### Values of another kind -/

/-- The value is of a kind that the shape is about. -/
def Shape.takes : Shape → Value → Bool
  | .text, .text _ => true
  | .flag, .flag _ => true
  | .whole, .number _ => true
  | .list _, .list _ => true
  | .record _ _, .list _ => true
  | .record _ _, .object _ => true
  | _, _ => false

/-- The characters with which a text of the shape may start. -/
def Shape.Starts : Shape → Char → Prop
  | .text, c => c = '"'
  | .flag, c => c = 't' ∨ c = 'f'
  | .whole, c => c = '-' ∨ isDigit c = true
  | .list _, c => c = '['
  | .record _ _, c => c = '[' ∨ c = Char.ofNat 0x7B

theorem isDigit_opening : isDigit 'n' = false ∧ isDigit 't' = false ∧ isDigit 'f' = false ∧
    isDigit '"' = false ∧ isDigit '[' = false ∧ isDigit (Char.ofNat 0x7B) = false := by
  decide

/-- The first character tells the kind of a value. -/
theorem Shape.takes_of_starts {shape : Shape} {v : Value} {c : Char} (hv : v.Opens c)
    (h : shape.Starts c) : shape.takes v = true := by
  -- a pair of a shape and a kind that do not go together has no first character in common
  cases shape <;> cases v <;> first
    | rfl
    | (exfalso
       unfold Shape.Starts at h
       unfold Value.Opens at hv
       grind [isDigit_opening])

theorem Shape.decode_of_not_takes {shape : Shape} {v : Value} (h : shape.takes v = false) :
    (shape.decode v).toOption = none := by
  cases shape <;> cases v <;> first | rfl | cases h

theorem match_list {α : Type} (s : List Char) (f g : List Char → α) :
    (∃ r, s = '[' :: r) ∨ (match s with
      | '[' :: r => f r
      | s => g s) = g s := by
  split
  · exact .inl ⟨_, rfl⟩
  · exact .inr rfl

theorem Shape.scan_of_not_starts {shape : Shape} {c : Char} (hspace : isSpace c = false)
    (h : ¬ shape.Starts c) (fuel : Nat) (s : List Char) :
    (shape.scan fuel (c :: s)).toOption = none := by
  have hskip := skipSpace_cons hspace s
  cases shape with
  | text =>
      have hc : c ≠ '"' := h
      show (scanText fuel (c :: s)).toOption = none
      simp [scanText, hskip, hc, Except.toOption]
  | flag =>
      obtain ⟨ht, hf⟩ := not_or.mp h
      show (scanFlag fuel (c :: s)).toOption = none
      simp [scanFlag, hskip, ht, hf, Except.toOption]
  | whole =>
      obtain ⟨hminus, hdigit⟩ := not_or.mp h
      show (scanWhole fuel (c :: s)).toOption = none
      simp [scanWhole, hskip, hminus, hdigit, Except.toOption]
  | list item =>
      have hc : c ≠ '[' := h
      have hscan : (Shape.list item).scan fuel (c :: s) =
          .error (wrongKind (Shape.list item).describe fuel (c :: s)) := by
        rw [Shape.scan, hskip]
        rcases match_list (c :: s) (scanItems item.scan [] fuel true)
            (fun s => .error (wrongKind (Shape.list item).describe fuel s)) with ⟨r, hr⟩ | h
        · exact absurd (List.cons.inj hr).1 hc
        · exact h
      rw [hscan]
      rfl
  | record name fields =>
      obtain ⟨hlist, hobject⟩ := not_or.mp h
      simp [Shape.scan, hskip, hlist, hobject, Except.toOption]

/-! ### White space in front -/

theorem Shape.scan_blank {w : List Char} (hw : Blank w) (shape : Shape) (fuel : Nat)
    (s : List Char) : shape.scan fuel (w ++ s) = shape.scan fuel s := by
  cases shape with
  | text =>
      show scanText fuel (w ++ s) = scanText fuel s
      rw [scanText, scanText, hw.skipSpace_append]
  | flag =>
      show scanFlag fuel (w ++ s) = scanFlag fuel s
      rw [scanFlag, scanFlag, hw.skipSpace_append]
  | whole =>
      show scanWhole fuel (w ++ s) = scanWhole fuel s
      rw [scanWhole, scanWhole, hw.skipSpace_append]
  | list item => rw [Shape.scan, Shape.scan, hw.skipSpace_append]
  | record name fields => rw [Shape.scan, Shape.scan, hw.skipSpace_append]

theorem scanCell_blank {w : List Char} (hw : Blank w) (shape : Shape) (fuel : Nat) (p : Presence)
    (s : List Char) :
    scanCell shape.scan fuel p (w ++ s) = scanCell shape.scan fuel p s := by
  cases p with
  | required => exact shape.scan_blank hw fuel s
  | nullable => rw [scanCell, scanCell, hw.skipSpace_append]
  | optional => rw [scanCell, scanCell, hw.skipSpace_append]

/-! ### Scalars -/

/-- Whatever the shape, the text gives the data that the value gives, and leaves the rest; or
neither gives any data. -/
def Agree (fuel : Nat) (s rest : List Char) (v : Value) : Prop :=
  ∀ shape : Shape,
    (shape.scan fuel (s ++ rest)).toOption = (shape.decode v).toOption.map fun data => (data, rest)

/-- Only the shapes that are about values of the kind matter. -/
theorem agree_of_takes {v : Value} {s : List Char} (hs : Writes (.value v) s) {fuel : Nat}
    {rest : List Char}
    (h : ∀ shape : Shape, shape.takes v = true → (shape.scan fuel (s ++ rest)).toOption =
      (shape.decode v).toOption.map fun data => (data, rest)) : Agree fuel s rest v := by
  intro shape
  cases htakes : shape.takes v with
  | true => exact h shape htakes
  | false =>
      obtain ⟨c, r, rfl, hc⟩ := hs.opens
      have hstarts : ¬ shape.Starts c := fun hstarts => by
        rw [Shape.takes_of_starts hc hstarts] at htakes
        cases htakes
      rw [List.cons_append, Shape.scan_of_not_starts hc.isSpace_eq hstarts,
        Shape.decode_of_not_takes htakes]
      rfl

theorem agree_null {fuel : Nat} {rest : List Char} :
    Agree fuel ['n', 'u', 'l', 'l'] rest .null :=
  agree_of_takes .null fun shape h => by cases shape <;> cases h

theorem agree_yes {fuel : Nat} {rest : List Char} :
    Agree fuel ['t', 'r', 'u', 'e'] rest (.flag true) :=
  agree_of_takes .yes fun shape h => by
    cases shape <;> try cases h
    show (scanFlag fuel _).toOption = _
    rw [scanFlag, List.cons_append, skipSpace_cons (by decide)]
    simp only [if_true]
    rw [readWord_append]
    rfl

theorem agree_no {fuel : Nat} {rest : List Char} :
    Agree fuel ['f', 'a', 'l', 's', 'e'] rest (.flag false) :=
  agree_of_takes .no fun shape h => by
    cases shape <;> try cases h
    show (scanFlag fuel _).toOption = _
    rw [scanFlag, List.cons_append, skipSpace_cons (by decide)]
    simp only [if_true]
    rw [if_neg (by decide), readWord_append]
    rfl

theorem scanNumber_magnitude {negative : Bool} {s rest : List Char} {n : Number}
    (h : Magnitude negative s n) (hrest : Ends rest) :
    (scanNumber negative (s ++ rest)).toOption =
      (wholeOf n).toOption.map fun data => (data, rest) := by
  rw [scanNumber, readNumber_magnitude h hrest]
  simp only
  cases wholeOf n <;> rfl

theorem agree_positive {s : List Char} {n : Number} (h : Magnitude false s n) {fuel : Nat}
    {rest : List Char} (hrest : Ends rest) : Agree fuel s rest (.number n) :=
  agree_of_takes (.positive h) fun shape htakes => by
    cases shape <;> try cases htakes
    have hscan := scanNumber_magnitude h hrest
    obtain ⟨c, r, rfl, hc⟩ := h.head
    show (scanWhole fuel _).toOption = (wholeOf n).toOption.map _
    rw [List.cons_append] at hscan ⊢
    rw [scanWhole, skipSpace_cons (isSpace_of_isDigit hc)]
    simp only
    rw [if_neg (ne_of_isDigit hc (by decide)), if_pos hc, hscan]
    rfl

theorem agree_negative {s : List Char} {n : Number} (h : Magnitude true s n) {fuel : Nat}
    {rest : List Char} (hrest : Ends rest) : Agree fuel ('-' :: s) rest (.number n) :=
  agree_of_takes (.negative h) fun shape htakes => by
    cases shape <;> try cases htakes
    show (scanWhole fuel _).toOption = (wholeOf n).toOption.map _
    rw [List.cons_append, scanWhole, skipSpace_cons (by decide)]
    simp only [if_true]
    exact scanNumber_magnitude h hrest

theorem agree_text {raw cs : List Char} (h : Spelling raw cs) {fuel : Nat} {rest : List Char}
    (hfuel : fuelFor ('"' :: (raw ++ ['"']) ++ rest) ≤ fuel + 1) :
    Agree fuel ('"' :: (raw ++ ['"'])) rest (.text (String.ofList cs)) :=
  agree_of_takes (.text h) fun shape htakes => by
    cases shape <;> try cases htakes
    simp only [List.cons_append, List.append_assoc, List.nil_append, fuelFor_cons,
      fuelFor_append] at hfuel ⊢
    show (scanText fuel _).toOption = _
    rw [scanText, skipSpace_cons (by decide)]
    simp only [if_true]
    rw [readString_spelling h rest (by omega)]
    rfl

/-! ### Fields -/

/-- Only null starts like null. -/
theorem eq_null_of_opens {v : Value} (h : v.Opens 'n') : v = .null := by
  cases v with
  | null => rfl
  | flag b => cases b <;> simp [Value.Opens] at h
  | number n => simp [Value.Opens, isDigit_opening] at h
  | _ => simp [Value.Opens] at h

/-- A field that may be null is null in the text exactly if it is so in the value. -/
theorem scanCell_agrees {v : Value} {s : List Char} (hs : Writes (.value v) s) {fuel : Nat}
    {rest : List Char} (h : Agree fuel s rest v) (shape : Shape) (p : Presence) :
    (scanCell shape.scan fuel p (s ++ rest)).toOption =
      (decodeCell shape.decode p v).toOption.map fun content => (content, rest) := by
  by_cases hv : v = .null
  · subst hv
    cases hs
    cases p with
    | required => exact h shape
    | nullable => rfl
    | optional => rfl
  · obtain ⟨c, r, hr, hc⟩ := hs.opens
    have hskip : skipSpace (s ++ rest) = s ++ rest := by
      rw [hr, List.cons_append, skipSpace_cons hc.isSpace_eq]
    have hother : ((shape.scan fuel (s ++ rest)).map (Prod.map some id)).toOption =
        ((shape.decode v).map some).toOption.map fun content => (content, rest) := by
      rw [toOption_map, h shape, toOption_map]
      cases (shape.decode v).toOption <;> rfl
    -- only null starts with this character
    have hnull : ∀ r, s ++ rest ≠ 'n' :: r := by
      intro r' hr'
      rw [hr, List.cons_append] at hr'
      rw [(List.cons.inj hr').1] at hc
      exact hv (eq_null_of_opens hc)
    cases p with
    | required => exact h shape
    | nullable =>
        have hdecode : decodeCell shape.decode .nullable v = (shape.decode v).map some := by
          cases v <;> first | rfl | exact absurd rfl hv
        rw [scanCell, hskip, hdecode]
        split
        · exact absurd ‹_› (hnull _)
        · exact hother
    | optional =>
        have hdecode : decodeCell shape.decode .optional v = (shape.decode v).map some := by
          cases v <;> first | rfl | exact absurd rfl hv
        rw [scanCell, hskip, hdecode]
        split
        · exact absurd ‹_› (hnull _)
        · exact hother

/-! ### Lists -/

/-- The elements of a list read one by one are those decoded one by one. -/
def AgreeItems (first : Bool) (s rest : List Char) (vs : List Value) : Prop :=
  ∀ (item : Shape) (done : List item.Datum) (fuel : Nat), fuelFor (s ++ rest) ≤ fuel →
    (scanItems item.scan done fuel first (s ++ rest)).toOption =
      (decodeItems item.decode vs).toOption.map fun xs => (done.reverse ++ xs, rest)

theorem agreeItems_end {w : List Char} (hw : Blank w) (first : Bool) (rest : List Char) :
    AgreeItems first (w ++ [']']) rest [] := by
  intro item done fuel hfuel
  obtain ⟨fuel, rfl⟩ := exists_succ_of_fuelFor_le (Nat.le_succ_of_le hfuel)
  rw [List.append_assoc, List.singleton_append, scanItems, nextItem_end hw]
  simp only
  rw [closeList_end hw]
  simp [Except.map, decodeItems, Except.toOption]

theorem agreeItems_item {first : Bool} {lead s t rest : List Char} {v : Value} {vs : List Value}
    (hlead : Lead first lead) (hs : Writes (.value v) s)
    (hv : ∀ fuel, fuelFor (s ++ (t ++ rest)) ≤ fuel + 1 → Agree fuel s (t ++ rest) v)
    (hvs : AgreeItems false t rest vs) :
    AgreeItems first (lead ++ (s ++ t)) rest (v :: vs) := by
  intro item done fuel hfuel
  obtain ⟨fuel, rfl⟩ := exists_succ_of_fuelFor_le (Nat.le_succ_of_le hfuel)
  obtain ⟨c, r, hr, hc⟩ := hs.opens
  simp only [List.append_assoc, fuelFor_append] at hfuel ⊢
  have hitem := hv fuel (by simp only [fuelFor_append]; omega) item
  have hlength : 0 < s.length := by simp [hr]
  have hrest := fun x => hvs item (x :: done) fuel (by simp only [fuelFor_append]; omega)
  subst hr
  rw [List.cons_append] at hitem ⊢
  rw [scanItems, nextItem_lead hlead hc, decodeItems]
  simp only
  cases hdecode : item.decode v with
  | error m =>
      rw [hdecode] at hitem
      obtain ⟨e, he⟩ := toOption_eq_none_iff.mp hitem
      rw [he]
      rfl
  | ok x =>
      rw [hdecode] at hitem
      rw [toOption_eq_some_iff.mp hitem]
      simp only
      rw [hrest x, toOption_map]
      cases (decodeItems item.decode vs).toOption <;> simp

/-- The data of a record, if no element of the list is left over. -/
def allTaken? {α : Type} : α × List Value → Option α
  | (data, []) => some data
  | (_, _ :: _) => none

/-- The fields of a record read from the elements of a list are those decoded from them. -/
def AgreeListed (first : Bool) (s rest : List Char) (vs : List Value) : Prop :=
  ∀ (fs : Fields) (wanted : String) (index fuel : Nat), fuelFor (s ++ rest) ≤ fuel →
    (fs.scanListed wanted index fuel first (s ++ rest)).toOption =
      ((fs.decodeListed wanted index vs).toOption.bind allTaken?).map fun data => (data, rest)

/-- At the end of the list both ways fill up the fields that are not there. -/
theorem scanListed_end {w : List Char} (hw : Blank w) (first : Bool) (rest : List Char) :
    (fs : Fields) → ∀ (wanted : String) (index fuel : Nat),
      (fs.scanListed wanted index fuel first (w ++ ']' :: rest)).toOption =
        ((fs.decodeListed wanted index []).toOption.bind allTaken?).map fun data => (data, rest)
  | .nil => fun wanted index fuel => by
      rw [Fields.scanListed, closeList_end hw]
      rfl
  | .cons key p shape fs => fun wanted index fuel => by
      have ih := scanListed_end hw first rest fs wanted (index + 1) fuel
      rw [Fields.scanListed, nextItem_end hw, Fields.decodeListed]
      simp only
      cases p.unlisted? shape.Datum with
      | none => rfl
      | some content =>
          simp only
          refine (toOption_map _ _).trans ?_
          rw [ih, toOption_map]
          rcases (fs.decodeListed wanted (index + 1) []).toOption with _ | ⟨data, _ | ⟨v, vs⟩⟩ <;>
            rfl

theorem agreeListed_item {first : Bool} {lead s t rest : List Char} {v : Value} {vs : List Value}
    (hlead : Lead first lead) (hs : Writes (.value v) s)
    (hv : ∀ fuel, fuelFor (s ++ (t ++ rest)) ≤ fuel + 1 → Agree fuel s (t ++ rest) v)
    (hvs : AgreeListed false t rest vs) :
    AgreeListed first (lead ++ (s ++ t)) rest (v :: vs) := by
  intro fs wanted index fuel hfuel
  obtain ⟨c, r, hr, hc⟩ := hs.opens
  simp only [List.append_assoc, fuelFor_append] at hfuel ⊢
  cases fs with
  | nil =>
      -- no field is left for the element: the text is not closed here, and the value has it over
      rw [hr, List.cons_append, Fields.scanListed]
      obtain ⟨e, he⟩ := closeList_lead hlead hc (r ++ (t ++ rest))
      rw [he]
      rfl
  | cons key p shape fs =>
      have hitem := scanCell_agrees hs (hv fuel (by simp only [fuelFor_append]; omega)) shape p
      have hrest := hvs fs wanted (index + 1) fuel (by simp only [fuelFor_append]; omega)
      subst hr
      rw [List.cons_append] at hitem ⊢
      rw [Fields.scanListed, nextItem_lead hlead hc, Fields.decodeListed]
      simp only
      cases hdecode : decodeCell shape.decode p v with
      | error m =>
          rw [hdecode] at hitem
          obtain ⟨e, he⟩ := toOption_eq_none_iff.mp hitem
          rw [he]
          rfl
      | ok content =>
          rw [hdecode] at hitem
          rw [toOption_eq_some_iff.mp hitem]
          simp only
          refine (toOption_map _ _).trans ?_
          rw [hrest, toOption_map]
          rcases (fs.decodeListed wanted (index + 1) vs).toOption with _ | ⟨data, _ | ⟨v, vs⟩⟩ <;>
            rfl

/-! ### Objects -/

/-- The field with this key, if there is one, has not been seen. -/
def Fields.Awaits : (fs : Fields) → String → fs.Partial → Prop
  | .nil, _, _ => True
  | .cons k _ _ rest, key, (cell, more) => if key = k then cell = none else rest.Awaits key more

theorem Fields.awaits_unseen (key : String) : (fs : Fields) → fs.Awaits key fs.unseen
  | .nil => trivial
  | .cons k _ _ rest => by
      show if key = k then none = none else rest.Awaits key rest.unseen
      split
      · rfl
      · exact Fields.awaits_unseen key rest

/-- What is awaited for one key is awaited after a member with another key. -/
theorem Fields.awaits_take {key key' : String} (hne : key' ≠ key) {v : Value} :
    (fs : Fields) → (record : fs.Partial) → {record' : fs.Partial} →
      fs.take key v record = some record' → fs.Awaits key' record → fs.Awaits key' record'
  | .nil, _, _ => fun _ _ => trivial
  | .cons k p shape rest, (cell, more), _ => fun htake h => by
      by_cases hk : key = k
      · subst hk
        rw [Fields.take_own] at htake
        obtain ⟨content, -, rfl⟩ := Option.map_eq_some_iff.mp htake
        show if key' = key then some content = none else rest.Awaits key' more
        rw [if_neg hne]
        have h : if key' = key then cell = none else rest.Awaits key' more := h
        rwa [if_neg hne] at h
      · rw [Fields.take_other hk] at htake
        obtain ⟨more', hmore, rfl⟩ := Option.map_eq_some_iff.mp htake
        have h : if key' = k then cell = none else rest.Awaits key' more := h
        show if key' = k then cell = none else rest.Awaits key' more'
        by_cases hk' : key' = k
        · rw [if_pos hk'] at h ⊢
          exact h
        · rw [if_neg hk'] at h ⊢
          exact Fields.awaits_take hne rest more hmore h

theorem Fields.offer_own (k : String) (p : Presence) (shape : Shape) (rest : Fields) (fuel : Nat)
    (more : rest.Partial) {t s : List Char} (ht : readColon t = .ok s) :
    (Fields.cons k p shape rest).offer k fuel (none, more) t =
      some ((scanCell shape.scan fuel p s).map fun (content, s) => ((some content, more), s)) := by
  rw [Fields.offer, if_pos rfl, ht]

theorem Fields.offer_other {k key : String} (h : key ≠ k) (p : Presence) (shape : Shape)
    (rest : Fields) (fuel : Nat) (cell : Option (p.Cell shape.Datum)) (more : rest.Partial)
    (s : List Char) :
    (Fields.cons k p shape rest).offer key fuel (cell, more) s =
      (rest.offer key fuel more s).map fun r => r.map fun (more, s) => ((cell, more), s) := by
  cases cell with
  | none => rw [Fields.offer, if_neg h]
  | some content => rw [Fields.offer, if_neg h]

/-- A member that is awaited goes into the same field from the text as from the value. -/
theorem offer_agrees {key : String} {v : Value} {s w w' rest : List Char} {fuel : Nat}
    (hs : Writes (.value v) s) (h : Agree fuel s rest v) (hw : Blank w) (hw' : Blank w') :
    (fs : Fields) → (record : fs.Partial) → fs.Awaits key record →
      (fs.offer key fuel record (w ++ ':' :: (w' ++ (s ++ rest)))).map Except.toOption =
        (fs.offerValue key v record).map fun r => r.toOption.map fun record => (record, rest)
  | .nil, _ => fun _ => rfl
  | .cons k p shape fs, (cell, more) => fun hawaits => by
      have hawaits : if key = k then cell = none else fs.Awaits key more := hawaits
      rw [Fields.offerValue]
      by_cases hk : key = k
      · -- the key is awaited, so it is not reported as given twice
        rw [if_pos hk] at hawaits
        subst hawaits hk
        rw [if_pos rfl, Fields.offer_own key p shape fs fuel more (readColon_colon hw _),
          scanCell_blank hw', Option.map_some, Option.map_some]
        refine congrArg some ((toOption_map _ _).trans ?_)
        rw [scanCell_agrees hs h shape p]
        cases decodeCell shape.decode p v <;> rfl
      · rw [if_neg hk] at hawaits
        rw [if_neg hk, Fields.offer_other hk]
        have ih := offer_agrees hs h hw hw' fs more hawaits
        cases hx : fs.offer key fuel more (w ++ ':' :: (w' ++ (s ++ rest))) with
        | none =>
            cases hy : fs.offerValue key v more with
            | none => rfl
            | some y =>
                rw [hx, hy] at ih
                cases ih
        | some x =>
            cases hy : fs.offerValue key v more with
            | none =>
                rw [hx, hy] at ih
                cases ih
            | some y =>
                rw [hx, hy] at ih
                have ih : x.toOption = y.toOption.map fun record => (record, rest) :=
                  Option.some.inj ih
                refine congrArg some ((toOption_map x _).trans ?_)
                rw [ih]
                cases y <;> rfl

/-- The members of an object read one by one, if their fields are all awaited, make up the record
that they are decoded to. -/
def AgreeMembers (first : Bool) (s rest : List Char) (ms : List (String × Value)) : Prop :=
  ∀ (fs : Fields) (record : fs.Partial) (fuel : Nat), fuelFor (s ++ rest) ≤ fuel →
    (∀ key ∈ ms.map Prod.fst, fs.Awaits key record) →
    (scanMembers fs.offer fs.complete fuel first record (s ++ rest)).toOption =
      ((decodeMembers fs.offerValue record ms).toOption.bind fun record =>
        (fs.complete record).toOption).map fun data => (data, rest)

theorem agreeMembers_end {w : List Char} (hw : Blank w) (first : Bool) (rest : List Char) :
    AgreeMembers first (w ++ [Char.ofNat 0x7D]) rest [] := by
  intro fs record fuel hfuel _
  obtain ⟨fuel, rfl⟩ := exists_succ_of_fuelFor_le (Nat.le_succ_of_le hfuel)
  have hpast : pastBrace (w ++ Char.ofNat 0x7D :: rest) = rest := by
    rw [pastBrace, skipSpace_end hw]
    rfl
  rw [List.append_assoc, List.singleton_append, scanMembers, nextKey_end hw, decodeMembers]
  simp only
  rw [hpast]
  show _ = (fs.complete record).toOption.map _
  cases fs.complete record <;> rfl

theorem agreeMembers_member {first : Bool} {lead raw key w w' s t rest : List Char} {v : Value}
    {ms : List (String × Value)} (hlead : Lead first lead) (hraw : Spelling raw key)
    (hw : Blank w) (hw' : Blank w') (hs : Writes (.value v) s)
    (ht : Writes (.members false ms) t) (hnew : String.ofList key ∉ ms.map Prod.fst)
    (hv : ∀ fuel, fuelFor (s ++ (t ++ rest)) ≤ fuel + 1 → Agree fuel s (t ++ rest) v)
    (hms : AgreeMembers false t rest ms) :
    AgreeMembers first (lead ++ '"' :: (raw ++ '"' :: (w ++ ':' :: (w' ++ (s ++ t))))) rest
      ((String.ofList key, v) :: ms) := by
  intro fs record fuel hfuel hawaits
  obtain ⟨fuel, rfl⟩ := exists_succ_of_fuelFor_le (Nat.le_succ_of_le hfuel)
  simp only [List.append_assoc, List.cons_append, fuelFor_append, fuelFor_cons] at hfuel ⊢
  have hvalue : fuelFor (s ++ (t ++ rest)) ≤ fuel + 1 := by
    simp only [fuelFor_append]
    omega
  have hrest : fuelFor (t ++ rest) ≤ fuel := by
    simp only [fuelFor_append]
    omega
  have hkey : fs.Awaits (String.ofList key) record := hawaits _ (by simp)
  have hoffer := offer_agrees hs (hv fuel hvalue) hw hw' fs record hkey
  -- the members still to come have other keys, so they stay awaited
  have hkeep : ∀ record', fs.take (String.ofList key) v record = some record' →
      ∀ key' ∈ ms.map Prod.fst, fs.Awaits key' record' := by
    intro record' htake key' hkey'
    have hne : key' ≠ String.ofList key := by
      rintro rfl
      exact hnew hkey'
    exact fs.awaits_take hne record htake (hawaits key' (List.mem_cons_of_mem _ hkey'))
  rw [scanMembers, nextKey_lead hlead, decodeMembers_cons]
  simp only
  rw [readString_spelling hraw _ (by omega)]
  simp only
  rw [Fields.take] at hkeep ⊢
  cases hdecode : fs.offerValue (String.ofList key) v record with
  | none =>
      -- no field has this key: the text is passed over, and the value is not looked at
      rw [hdecode] at hoffer hkeep
      rw [Option.map_eq_none_iff.mp hoffer]
      simp only [readColon_colon hw, bind, Except.bind]
      rw [skipValue_writes hs hw' (ht.ends_members rest) hvalue]
      simp only
      rw [hms fs record fuel hrest (hkeep record rfl)]
      rfl
  | some r =>
      rw [hdecode] at hoffer hkeep
      obtain ⟨x, hx, hr⟩ := Option.map_eq_some_iff.mp hoffer
      rw [hx]
      cases r with
      | error m =>
          obtain ⟨e, rfl⟩ := toOption_eq_none_iff.mp hr
          rfl
      | ok record' =>
          obtain rfl := toOption_eq_some_iff.mp hr
          simp only
          rw [hms fs record' fuel hrest (hkeep record' rfl)]
          rfl

/-! ### All values -/

/-- Whatever is asked for, reading the phrase agrees with decoding what it stands for. -/
def Agrees : Phrase → List Char → Prop
  | .value v, s => v.Distinct → ∀ (fuel : Nat) (rest : List Char), Ends rest →
      fuelFor (s ++ rest) ≤ fuel + 1 → Agree fuel s rest v
  | .items first vs, s => DistinctItems vs → ∀ rest : List Char,
      AgreeItems first s rest vs ∧ AgreeListed first s rest vs
  | .members first ms, s => DistinctMembers ms → (ms.map Prod.fst).Nodup → ∀ rest : List Char,
      AgreeMembers first s rest ms

theorem agree_list {vs : List Value} {s : List Char} (hs : Writes (.items true vs) s)
    {rest : List Char} (hitems : AgreeItems true s rest vs)
    (hlisted : AgreeListed true s rest vs) {fuel : Nat}
    (hfuel : fuelFor ('[' :: s ++ rest) ≤ fuel + 1) : Agree fuel ('[' :: s) rest (.list vs) :=
  agree_of_takes (.list hs) fun shape htakes => by
    rw [List.cons_append, fuelFor_cons] at hfuel
    cases shape with
    | list item =>
        have hscan : (Shape.list item).scan fuel ('[' :: (s ++ rest)) =
            scanItems item.scan [] fuel true (s ++ rest) := by
          rw [Shape.scan, skipSpace_cons (by decide)]
          rfl
        rw [List.cons_append, hscan]
        exact hitems item [] fuel (by omega)
    | record name fields =>
        have hscan : (Shape.record name fields).scan fuel ('[' :: (s ++ rest)) =
            fields.scanListed (recordLength name fields) 0 fuel true (s ++ rest) := by
          rw [Shape.scan, skipSpace_cons (by decide)]
          exact if_pos rfl
        have hdecode : ((Shape.record name fields).decode (.list vs)).toOption =
            (fields.decodeListed (recordLength name fields) 0 vs).toOption.bind allTaken? := by
          rw [decode_record_list]
          rcases fields.decodeListed (recordLength name fields) 0 vs with
            e | ⟨data, _ | ⟨v, left⟩⟩ <;> rfl
        rw [List.cons_append, hscan, hdecode]
        exact hlisted fields _ 0 fuel (by omega)
    | _ => cases htakes

theorem agree_object {ms : List (String × Value)} {s : List Char}
    (hs : Writes (.members true ms) s) (hkeys : (ms.map Prod.fst).Nodup) {rest : List Char}
    (hmembers : AgreeMembers true s rest ms) {fuel : Nat}
    (hfuel : fuelFor (Char.ofNat 0x7B :: s ++ rest) ≤ fuel + 1) :
    Agree fuel (Char.ofNat 0x7B :: s) rest (.object ms) :=
  agree_of_takes (.object hs) fun shape htakes => by
    rw [List.cons_append, fuelFor_cons] at hfuel
    cases shape with
    | record name fields =>
        have hscan : (Shape.record name fields).scan fuel (Char.ofNat 0x7B :: (s ++ rest)) =
            scanMembers fields.offer fields.complete fuel true fields.unseen (s ++ rest) := by
          rw [Shape.scan, skipSpace_cons (by decide)]
          exact (if_neg (by decide)).trans (if_pos rfl)
        rw [List.cons_append, hscan, decode_object hkeys]
        exact hmembers fields fields.unseen fuel (by omega) fun key _ => fields.awaits_unseen key
    | _ => cases htakes

/-- **Reading from the text and decoding the value agree**, phrase by phrase. -/
theorem agrees_of_writes {p : Phrase} {s : List Char} (h : Writes p s) : Agrees p s := by
  induction h with
  | null => exact fun _ _ _ _ _ => agree_null
  | yes => exact fun _ _ _ _ _ => agree_yes
  | no => exact fun _ _ _ _ _ => agree_no
  | positive hn => exact fun _ _ _ hrest _ => agree_positive hn hrest
  | negative hn => exact fun _ _ _ hrest _ => agree_negative hn hrest
  | text hraw => exact fun _ _ _ _ hfuel => agree_text hraw hfuel
  | list hs ih =>
      intro hv fuel rest _ hfuel
      rw [Value.Distinct] at hv
      obtain ⟨hitems, hlisted⟩ := ih hv rest
      exact agree_list hs hitems hlisted hfuel
  | object hs ih =>
      intro hv fuel rest _ hfuel
      rw [Value.Distinct] at hv
      exact agree_object hs hv.1 (ih hv.2 hv.1 rest) hfuel
  | listEnd hw =>
      intro _ rest
      refine ⟨agreeItems_end hw _ rest, ?_⟩
      intro fs wanted index fuel _
      rw [List.append_assoc, List.singleton_append]
      exact scanListed_end hw _ rest fs wanted index fuel
  | item hlead hs ht ihs iht =>
      intro hvs rest
      rw [DistinctItems] at hvs
      obtain ⟨hitems, hlisted⟩ := iht hvs.2 rest
      have hvalue := fun fuel => ihs hvs.1 fuel _ (ht.ends_items rest)
      exact ⟨agreeItems_item hlead hs hvalue hitems, agreeListed_item hlead hs hvalue hlisted⟩
  | objectEnd hw => exact fun _ _ rest => agreeMembers_end hw _ rest
  | member hlead hraw hw hw' hs ht ihs iht =>
      intro hms hkeys rest
      rw [DistinctMembers] at hms
      rw [List.map_cons, List.nodup_cons] at hkeys
      exact agreeMembers_member hlead hraw hw hw' hs ht hkeys.1
        (fun fuel => ihs hms.1 fuel _ (ht.ends_members rest)) (iht hms.2 hkeys.2 rest)

/-- **A shape read from a whole text is the shape decoded from its value**: the same data, or none
on both sides. -/
theorem Shape.read_agrees {text : List Char} {v : Value} (h : Denotes text v) (hv : v.Distinct)
    (shape : Shape) : (shape.read text).toOption = (shape.decode v).toOption := by
  obtain ⟨w, s, w', hw, hs, hw', rfl⟩ := h
  have hfuel : fuelFor (s ++ w') ≤ fuelFor (w ++ (s ++ w')) + 1 := by
    rw [fuelFor_append w]
    omega
  have hscan := agrees_of_writes hs hv _ w' hw'.ends_self hfuel shape
  rw [Shape.read, shape.scan_blank hw]
  cases hdecode : shape.decode v with
  | error m =>
      rw [hdecode] at hscan
      obtain ⟨e, he⟩ := toOption_eq_none_iff.mp hscan
      rw [he]
      rfl
  | ok data =>
      rw [hdecode] at hscan
      rw [toOption_eq_some_iff.mp hscan]
      simp only [bind, Except.bind]
      rw [closeText_blank hw']
      rfl

end RailWatch.Payload

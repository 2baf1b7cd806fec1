import RailWatch.Json.Read
/-!
# RailWatch.Proofs.Json.Grammar

The grammar of JSON, as a relation between texts and the values they denote.

`Denotes text v` says that `text` is a JSON text and `v` its value. The relation knows nothing of
readers, fuel or faults. Strings come with what their escapes stand for, surrogates in pairs only;
numbers with what their digits stand for, if that is in range; objects with their members in the
order of the text, repeated keys included.

The values, lists and objects of the grammar are three kinds of **phrases** of one relation,
`Writes`, so that a fact about all of them is one induction. What is inside a list or an object is
written element by element, up to the closing bracket, with a **lead** in front of each: white space
only for the first one, and a comma with white space around it for the others.
-/

namespace RailWatch.Json

open Text

/-- White space only. -/
def Blank (s : List Char) : Prop := ∀ c ∈ s, isSpace c = true

/-! ### Numbers -/

/-- Digits only. -/
def AllDigits (ds : List Char) : Prop := ∀ d ∈ ds, isDigit d = true

/-- The digits before the point: a zero by itself, or digits that do not start with one. -/
inductive WholePart : List Char → Prop
  | zero : WholePart ['0']
  | digits {d : Char} {ds : List Char} : isDigit d = true → d ≠ '0' → AllDigits ds →
      WholePart (d :: ds)

/-- The point and the digits after it, if there are any. -/
inductive FractionPart : List Char → Option (List Char) → Prop
  | absent : FractionPart [] none
  | point {ds : List Char} : ds ≠ [] → AllDigits ds → FractionPart ('.' :: ds) (some ds)

/-- The sign of an exponent, and whether it is a minus. -/
inductive SignPart : List Char → Bool → Prop
  | absent : SignPart [] false
  | plus : SignPart ['+'] false
  | minus : SignPart ['-'] true

/-- The exponent, if there is one: whether it is negative, and its digits. -/
inductive ExponentPart : List Char → Option (Bool × List Char) → Prop
  | absent : ExponentPart [] none
  | mark {e : Char} {sign ds : List Char} {down : Bool} : e = 'e' ∨ e = 'E' → SignPart sign down →
      ds ≠ [] → AllDigits ds → ExponentPart (e :: (sign ++ ds)) (some (down, ds))

/-- The real number of a significand and a decimal exponent, if it is in range. -/
def Number.ofReal? (negative : Bool) (significand : Nat) (exponent : Int) : Option Number :=
  (Binary64.ofDecimal? significand exponent).map fun x => .real (x.withSign negative)

/-- The number without fraction and exponent: whole if 64 bits hold it, but for a negative zero. -/
def Number.ofWhole? (negative : Bool) (significand : Nat) : Option Number :=
  if negative = false then some (.whole significand)
  else if significand = 0 || maxUnsigned / 2 + 1 < significand then ofReal? true significand 0
  else some (.whole (-(significand : Int)))

/-- The number that the parts write, if it is in range. The significand holds as many digits as fit
into 64 bits; those before the point that do not fit raise the exponent. -/
def Number.ofParts? (negative : Bool) (whole : List Char) (fraction : Option (List Char))
    (exponent : Option (Bool × List Char)) : Option Number :=
  let (n, dropped) := extend 0 whole
  match fraction, exponent with
  | none, none => if dropped = 0 then ofWhole? negative n else ofReal? negative n dropped
  | _, _ =>
    let ds := fraction.getD []
    let (m, unread) := extend n ds
    let start : Int := (dropped : Int) - (ds.length - unread)
    match exponent with
    | none => ofReal? negative m start
    | some (down, es) =>
      match exponentValue 0 es with
      | .inl e => ofReal? negative m (if down then start - e else start + e)
      | .inr _ => if m ≠ 0 && !down then none else ofReal? negative 0 0

/-- A number without its sign. -/
inductive Magnitude (negative : Bool) : List Char → Number → Prop
  | mk {w f x : List Char} {fraction : Option (List Char)} {exponent : Option (Bool × List Char)}
      {n : Number} : WholePart w → FractionPart f fraction → ExponentPart x exponent →
      Number.ofParts? negative w fraction exponent = some n → Magnitude negative (w ++ (f ++ x)) n

/-! ### Strings -/

/-- What stands between the quotation marks of a string, and the characters it stands for. -/
inductive Spelling : List Char → List Char → Prop
  | nil : Spelling [] []
  | plain {c : Char} {raw cs : List Char} : c ≠ '"' → c ≠ '\\' → isControl c = false →
      Spelling raw cs → Spelling (c :: raw) (c :: cs)
  | escape {e c : Char} {raw cs : List Char} : plainEscape? e = some c → Spelling raw cs →
      Spelling ('\\' :: e :: raw) (c :: cs)
  | code {a b c d : Char} {n : Nat} {raw cs : List Char} : hexNumber? a b c d = some n →
      isLeading n = false → isTrailing n = false → Spelling raw cs →
      Spelling ('\\' :: 'u' :: a :: b :: c :: d :: raw) (Char.ofNat n :: cs)
  | pair {a b c d a' b' c' d' : Char} {n m : Nat} {raw cs : List Char} :
      hexNumber? a b c d = some n → isLeading n = true → hexNumber? a' b' c' d' = some m →
      isTrailing m = true → Spelling raw cs →
      Spelling ('\\' :: 'u' :: a :: b :: c :: d :: '\\' :: 'u' :: a' :: b' :: c' :: d' :: raw)
        (pairChar n m :: cs)

/-! ### Values -/

/-- What stands in front of an element or a member, which may be the first one. -/
inductive Lead : Bool → List Char → Prop
  | first {w : List Char} : Blank w → Lead true w
  | next {w w' : List Char} : Blank w → Blank w' → Lead false (w ++ ',' :: w')

/-- A piece of a JSON text. -/
inductive Phrase
  /-- A value. -/
  | value (v : Value)
  /-- The elements of a list, from the first one on or after another one, and its closing bracket. -/
  | items (first : Bool) (vs : List Value)
  /-- The same for the members of an object. -/
  | members (first : Bool) (ms : List (String × Value))

/-- How phrases are written. -/
inductive Writes : Phrase → List Char → Prop
  | null : Writes (.value .null) ['n', 'u', 'l', 'l']
  | yes : Writes (.value (.flag true)) ['t', 'r', 'u', 'e']
  | no : Writes (.value (.flag false)) ['f', 'a', 'l', 's', 'e']
  | positive {s : List Char} {n : Number} : Magnitude false s n → Writes (.value (.number n)) s
  | negative {s : List Char} {n : Number} : Magnitude true s n →
      Writes (.value (.number n)) ('-' :: s)
  | text {raw cs : List Char} : Spelling raw cs →
      Writes (.value (.text (String.ofList cs))) ('"' :: (raw ++ ['"']))
  | list {vs : List Value} {s : List Char} : Writes (.items true vs) s →
      Writes (.value (.list vs)) ('[' :: s)
  | object {ms : List (String × Value)} {s : List Char} : Writes (.members true ms) s →
      Writes (.value (.object ms)) (Char.ofNat 0x7B :: s)
  | listEnd {first : Bool} {w : List Char} : Blank w → Writes (.items first []) (w ++ [']'])
  | item {first : Bool} {v : Value} {vs : List Value} {lead s t : List Char} : Lead first lead →
      Writes (.value v) s → Writes (.items false vs) t →
      Writes (.items first (v :: vs)) (lead ++ (s ++ t))
  | objectEnd {first : Bool} {w : List Char} : Blank w →
      Writes (.members first []) (w ++ [Char.ofNat 0x7D])
  | member {first : Bool} {v : Value} {ms : List (String × Value)}
      {lead raw key w w' s t : List Char} : Lead first lead → Spelling raw key → Blank w →
      Blank w' → Writes (.value v) s → Writes (.members false ms) t →
      Writes (.members first ((String.ofList key, v) :: ms))
        (lead ++ '"' :: (raw ++ '"' :: (w ++ ':' :: (w' ++ (s ++ t)))))

/-- The text is a JSON text with this value. -/
def Denotes (text : List Char) (v : Value) : Prop :=
  ∃ w s w', Blank w ∧ Writes (.value v) s ∧ Blank w' ∧ text = w ++ (s ++ w')

mutual

/-- No object within the value has a key twice. -/
def Value.Distinct : Value → Prop
  | .list vs => DistinctItems vs
  | .object ms => (ms.map Prod.fst).Nodup ∧ DistinctMembers ms
  | _ => True

/-- No object within the values has a key twice. -/
def DistinctItems : List Value → Prop
  | [] => True
  | v :: vs => v.Distinct ∧ DistinctItems vs

/-- No object within the values of the members has a key twice. -/
def DistinctMembers : List (String × Value) → Prop
  | [] => True
  | (_, v) :: ms => v.Distinct ∧ DistinctMembers ms

end

mutual

/-- Whether no object within the value has a key twice. -/
def Value.decideDistinct : (v : Value) → Decidable v.Distinct
  | .list vs => decideDistinctItems vs
  | .object ms => @instDecidableAnd _ _ inferInstance (decideDistinctMembers ms)
  | .null | .flag _ | .number _ | .text _ => isTrue trivial

/-- Whether no object within the values has a key twice. -/
def decideDistinctItems : (vs : List Value) → Decidable (DistinctItems vs)
  | [] => isTrue trivial
  | v :: vs => @instDecidableAnd _ _ v.decideDistinct (decideDistinctItems vs)

/-- Whether no object within the values of the members has a key twice. -/
def decideDistinctMembers : (ms : List (String × Value)) → Decidable (DistinctMembers ms)
  | [] => isTrue trivial
  | (_, v) :: ms => @instDecidableAnd _ _ v.decideDistinct (decideDistinctMembers ms)

end

instance (v : Value) : Decidable v.Distinct := v.decideDistinct

/-! ### First characters -/

/-- The characters with which a text of the value may start. -/
def Value.Opens : Value → Char → Prop
  | .null, c => c = 'n'
  | .flag b, c => c = if b then 't' else 'f'
  | .number _, c => c = '-' ∨ isDigit c = true
  | .text _, c => c = '"'
  | .list _, c => c = '['
  | .object _, c => c = Char.ofNat 0x7B

theorem WholePart.head {w : List Char} (h : WholePart w) :
    ∃ c r, w = c :: r ∧ isDigit c = true := by
  cases h with
  | zero => exact ⟨'0', [], rfl, by decide⟩
  | digits hd _ _ => exact ⟨_, _, rfl, hd⟩

theorem Magnitude.head {negative : Bool} {s : List Char} {n : Number}
    (h : Magnitude negative s n) : ∃ c r, s = c :: r ∧ isDigit c = true := by
  obtain ⟨hw, -, -, -⟩ := h
  obtain ⟨c, r, rfl, hc⟩ := hw.head
  exact ⟨c, _, rfl, hc⟩

/-- The text of a value starts with a character that tells its kind. -/
theorem Writes.opens {v : Value} {s : List Char} (h : Writes (.value v) s) :
    ∃ c r, s = c :: r ∧ v.Opens c := by
  cases h with
  | null => exact ⟨_, _, rfl, rfl⟩
  | yes => exact ⟨_, _, rfl, rfl⟩
  | no => exact ⟨_, _, rfl, rfl⟩
  | positive h =>
      obtain ⟨c, r, rfl, hc⟩ := h.head
      exact ⟨c, r, rfl, .inr hc⟩
  | negative h => exact ⟨_, _, rfl, .inl rfl⟩
  | text h => exact ⟨_, _, rfl, rfl⟩
  | list h => exact ⟨_, _, rfl, rfl⟩
  | object h => exact ⟨_, _, rfl, rfl⟩

/-- A character that is neither part of a number nor starts a value: a text that goes on with it has
come to the end of a value. -/
def Closes (c : Char) : Prop :=
  isSpace c = true ∨ c = ',' ∨ c = ']' ∨ c = Char.ofNat 0x7D

/-- No number goes on with the text. -/
def Ends (s : List Char) : Prop := ∀ c r, s = c :: r → Closes c

theorem ends_nil : Ends [] := fun _ _ h => by cases h

theorem ends_cons {c : Char} {s : List Char} (h : Closes c) : Ends (c :: s) := fun _ _ hc => by
  rw [← (List.cons.inj hc).1]
  exact h

theorem Blank.ends {w : List Char} (h : Blank w) {s : List Char} (hs : Ends s) :
    Ends (w ++ s) := by
  cases w with
  | nil => exact hs
  | cons c w => exact ends_cons (.inl (h c (by simp)))

theorem Blank.ends_self {w : List Char} (h : Blank w) : Ends w := by
  have hw := h.ends ends_nil
  rwa [List.append_nil] at hw

/-- After an element or a member comes what closes it. -/
theorem Lead.ends {lead : List Char} (h : Lead false lead) (s : List Char) :
    Ends (lead ++ s) := by
  cases h with
  | next hw _ =>
      rw [List.append_assoc]
      exact hw.ends (ends_cons (.inr (.inl rfl)))

theorem Writes.ends_items {vs : List Value} {t : List Char} (h : Writes (.items false vs) t)
    (rest : List Char) : Ends (t ++ rest) := by
  cases h with
  | listEnd hw =>
      rw [List.append_assoc]
      exact hw.ends (ends_cons (.inr (.inr (.inl rfl))))
  | item hl _ _ =>
      rw [List.append_assoc]
      exact hl.ends _

theorem Writes.ends_members {ms : List (String × Value)} {t : List Char}
    (h : Writes (.members false ms) t) (rest : List Char) : Ends (t ++ rest) := by
  cases h with
  | objectEnd hw =>
      rw [List.append_assoc]
      exact hw.ends (ends_cons (.inr (.inr (.inr rfl))))
  | member hl _ _ _ _ _ =>
      rw [List.append_assoc]
      exact hl.ends _

end RailWatch.Json

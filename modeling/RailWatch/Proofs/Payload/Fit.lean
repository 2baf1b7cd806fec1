import Mathlib.Data.List.Forall2
import RailWatch.Proofs.Json.Members
import RailWatch.Proofs.Payload.MemberOrder
/-!
# RailWatch.Proofs.Payload.Fit

Which values a shape is taken from.

A value **fits** data of a shape (`Shape.Fits`) if it is put together as the shape says and holds
these data. This is said without a decoder: a record is an object or a list, each of its fields has
a **slot** there, by its key or by its place, and what is in the slot holds the content of the
field. The main result is `Shape.decode_eq_ok_iff`: decoding gives exactly the data that the value
fits.

For an object this needs that no member is lost on the way. The members are put in the order of
their keys, the last one of each key kept (`lookup_orderMembers`), and then each goes to the field
with its key (`decodeMembers_eq_some_iff`), which is the only one as long as no record has two
fields with one key (`Shape.separate`).
-/

namespace RailWatch

open Json

namespace Payload

/-! ### What a value holds -/

section Holding

variable {α : Type}

/-- The value is this text. -/
def IsText (v : Value) (t : String) : Prop := v = .text t

/-- The value is this truth value. -/
def IsFlag (v : Value) (b : Bool) : Prop := v = .flag b

/-- The value is this number, a signed one of 64 bits. -/
def IsWhole (v : Value) (n : Int) : Prop :=
  v = .number (.whole n) ∧ minWhole ≤ n ∧ n ≤ maxWhole

/-- The value is a list of values that hold these items one by one. -/
def IsList (holds : Value → α → Prop) (v : Value) (xs : List α) : Prop :=
  ∃ vs, v = .list vs ∧ List.Forall₂ holds vs xs

/-- There is a value in the slot, and it holds the content. -/
def Given (holds : Value → α → Prop) (slot : Option Value) (content : α) : Prop :=
  ∃ v, slot = some v ∧ holds v content

/-- No content comes from a slot without a value, or with null; other content comes from the value
in the slot, which holds it. -/
def Omissible (holds : Value → α → Prop) (slot : Option Value) : Option α → Prop
  | none => slot = none ∨ slot = some .null
  | some content => Given holds slot content

/-- What a slot holds for a field, which may be empty unless the field is required. -/
def Presence.Holds (holds : Value → α → Prop) (slot : Option Value) :
    (p : Presence) → p.Cell α → Prop
  | .required, content => Given holds slot content
  | .nullable, content | .optional, content => Omissible holds slot content

end Holding

/-- The least number of elements of a list for these fields: all those up to the last one that may
not be left out. -/
def Fields.least : Fields → Nat
  | .nil => 0
  | .cons _ .optional _ rest => if rest.least = 0 then 0 else rest.least + 1
  | .cons _ _ _ rest => rest.least + 1

mutual

/-- The value is of the shape, and these are the data that it holds. -/
def Shape.Fits : (shape : Shape) → Value → shape.Datum → Prop
  | .text, v, t => IsText v t
  | .flag, v, b => IsFlag v b
  | .whole, v, n => IsWhole v n
  | .list item, v, xs => IsList item.Fits v xs
  | .record _ fields, v, data => v.HasRoom fields.least fields.count ∧ fields.Fill v.slot? data

/-- The slots, by key and place, hold the contents of the fields. -/
def Fields.Fill : (fs : Fields) → (String → Nat → Option Value) → fs.Data → Prop
  | .nil, _, _ => True
  | .cons key presence shape rest, slots, (content, more) =>
    presence.Holds shape.Fits (slots key 0) content ∧
      rest.Fill (fun key index => slots key (index + 1)) more

end

/-! ### The fields of a record -/

/-- One of the fields has this key and presence, and this shape. -/
inductive Fields.Has : Fields → String → Presence → Shape → Prop
  | head (key : String) (p : Presence) (shape : Shape) (rest : Fields) :
      Has (.cons key p shape rest) key p shape
  | tail {rest : Fields} {key : String} {p : Presence} {shape : Shape} (key' : String)
      (p' : Presence) (shape' : Shape) :
      Has rest key p shape → Has (.cons key' p' shape' rest) key p shape

/-- The keys of the fields. -/
def Fields.keys : Fields → List String
  | .nil => []
  | .cons key _ _ rest => key :: rest.keys

mutual

/-- No record of the shape has two fields with one key. -/
def Shape.separate : Shape → Bool
  | .list item => item.separate
  | .record _ fields => fields.separate
  | _ => true

/-- No two of the fields have one key, nor have those of the records in them. -/
def Fields.separate : Fields → Bool
  | .nil => true
  | .cons key _ shape rest => !rest.keys.contains key && (shape.separate && rest.separate)

end

theorem Fields.separate_cons {key : String} {p : Presence} {shape : Shape} {rest : Fields} :
    (Fields.cons key p shape rest).separate = true ↔
      key ∉ rest.keys ∧ shape.separate = true ∧ rest.separate = true := by
  simp [Fields.separate]

section Induction

variable {motive : Shape → Prop}

mutual

/-- Shapes one in another: what holds of a record as soon as it holds of all its fields, and so on,
holds of every shape. -/
theorem Shape.induction (text : motive .text) (flag : motive .flag) (whole : motive .whole)
    (list : ∀ item, motive item → motive (.list item))
    (record : ∀ name fields, (∀ key p shape, fields.Has key p shape → motive shape) →
      motive (.record name fields)) : (shape : Shape) → motive shape
  | .text => text
  | .flag => flag
  | .whole => whole
  | .list item => list item (Shape.induction text flag whole list record item)
  | .record name fields => record name fields (Fields.induction text flag whole list record fields)

theorem Fields.induction (text : motive .text) (flag : motive .flag) (whole : motive .whole)
    (list : ∀ item, motive item → motive (.list item))
    (record : ∀ name fields, (∀ key p shape, fields.Has key p shape → motive shape) →
      motive (.record name fields)) :
    (fs : Fields) → ∀ key p shape, fs.Has key p shape → motive shape
  | .nil => fun _ _ _ h => nomatch h
  | .cons _ _ shape rest => fun _ _ _ h => by
      cases h with
      | head => exact Shape.induction text flag whole list record shape
      | tail _ _ _ hrest => exact Fields.induction text flag whole list record rest _ _ _ hrest

end

end Induction

/-- The fields of a record one by one, without what is inside of them. -/
@[induction_eliminator]
theorem Fields.fieldwise {motive : Fields → Prop} (nil : motive .nil)
    (cons : ∀ key p shape rest, motive rest → motive (.cons key p shape rest)) :
    (fs : Fields) → motive fs
  | .nil => nil
  | .cons key p shape rest => cons key p shape rest (Fields.fieldwise nil cons rest)

/-! ### Decoding one value -/

/-- Decoding gives exactly the data that the value fits. -/
def Shape.Exact (shape : Shape) : Prop :=
  ∀ v data, shape.decode v = .ok data ↔ shape.Fits v data

/-- Null is no data of any shape. -/
theorem Shape.not_fits_null (shape : Shape) (data : shape.Datum) : ¬shape.Fits .null data := by
  intro h
  cases shape with
  | text => cases h
  | flag => cases h
  | whole => cases h.1
  | list item =>
      obtain ⟨_, h, -⟩ := h
      cases h
  | record name fields => exact h.1.elim

theorem omissible_some_iff {α : Type} {holds : Value → α → Prop} {v : Value} (hv : v ≠ .null)
    {o : Option α} : Omissible holds (some v) o ↔ ∃ a, o = some a ∧ holds v a := by
  cases o <;> simp [Omissible, Given, hv]

theorem omissible_none_iff {α : Type} {holds : Value → α → Prop} {o : Option α} :
    Omissible holds none o ↔ o = none := by
  cases o <;> simp [Omissible, Given]

theorem omissible_null_iff {α : Type} {holds : Value → α → Prop} (h : ∀ a, ¬holds .null a)
    {o : Option α} : Omissible holds (some .null) o ↔ o = none := by
  cases o <;> simp [Omissible, Given, h]

theorem map_some_eq_ok_iff {ε α : Type} {x : Except ε α} {o : Option α} :
    x.map some = .ok o ↔ ∃ a, o = some a ∧ x = .ok a := by
  cases x <;> simp [Except.map, eq_comm]

/-- A field that may be null, decoded: null is nothing, and everything else is decoded as it is. -/
theorem eq_ok_iff_omissible {shape : Shape} (h : shape.Exact) {v : Value}
    {x : Except Mismatch (Option shape.Datum)} (hnull : v = .null → x = .ok none)
    (hother : v ≠ .null → x = (shape.decode v).map some) (o : Option shape.Datum) :
    x = .ok o ↔ Omissible shape.Fits (some v) o := by
  by_cases hv : v = .null
  · rw [hnull hv, hv, omissible_null_iff shape.not_fits_null]
    simp [eq_comm]
  · rw [hother hv, map_some_eq_ok_iff, omissible_some_iff hv]
    simp only [h v]

theorem decodeCell_eq_ok_iff {shape : Shape} (h : shape.Exact) (p : Presence) (v : Value)
    (content : p.Cell shape.Datum) :
    decodeCell shape.decode p v = .ok content ↔ p.Holds shape.Fits (some v) content := by
  cases p with
  | required =>
      show shape.decode v = .ok content ↔ Given shape.Fits (some v) content
      simp [Given, h v content]
  | nullable =>
      refine eq_ok_iff_omissible h (fun hv => ?_) (fun hv => ?_) content
      · rw [hv]
        rfl
      · cases v <;> first | rfl | exact absurd rfl hv
  | optional =>
      refine eq_ok_iff_omissible h (fun hv => ?_) (fun hv => ?_) content
      · rw [hv]
        rfl
      · cases v <;> first | rfl | exact absurd rfl hv

/-- What a field of an object holds that has no member for it. -/
theorem absent?_eq_some_iff {shape : Shape} (p : Presence) (content : p.Cell shape.Datum) :
    p.absent? shape.Datum = some content ↔ p.Holds shape.Fits none content := by
  cases p with
  | required => simp [Presence.absent?, Presence.Holds, Given]
  | nullable => exact (Option.some_inj.trans eq_comm).trans omissible_none_iff.symm
  | optional => exact (Option.some_inj.trans eq_comm).trans omissible_none_iff.symm

/-- What a field of a list holds that ends before it. -/
theorem unlisted?_eq_some_iff {shape : Shape} (p : Presence) (content : p.Cell shape.Datum) :
    p.unlisted? shape.Datum = some content ↔ p = .optional ∧ p.Holds shape.Fits none content := by
  cases p with
  | required => simp [Presence.unlisted?]
  | nullable => simp [Presence.unlisted?]
  | optional => exact (absent?_eq_some_iff .optional content).trans (by simp)

/-! ### Decoding a list -/

theorem decodeItems_eq_ok_iff {item : Shape} (h : item.Exact) (vs : List Value)
    (xs : List item.Datum) :
    decodeItems item.decode vs = .ok xs ↔ List.Forall₂ item.Fits vs xs := by
  induction vs generalizing xs with
  | nil => cases xs <;> simp [decodeItems]
  | cons v vs ih =>
      rw [decodeItems]
      cases hv : item.decode v with
      | error m =>
          cases xs with
          | nil => simp
          | cons x xs =>
              have hnot : ¬item.Fits v x := fun hfits => by
                rw [← h, hv] at hfits
                cases hfits
              simp [hnot]
      | ok x' =>
          cases xs with
          | nil => cases decodeItems item.decode vs <;> simp [Except.map]
          | cons x xs =>
              rw [List.forall₂_cons, ← h, hv, ← ih]
              cases decodeItems item.decode vs <;> simp [Except.map]

theorem map_pair_eq_ok_iff {ε α β γ : Type} {x : Except ε (β × γ)} {a a' : α} {b : β} {c : γ} :
    (x.map fun (b, c) => ((a', b), c)) = .ok ((a, b), c) ↔ a' = a ∧ x = .ok (b, c) := by
  cases x <;> simp [Except.map, Prod.ext_iff, and_assoc]

theorem Fields.least_cons_le_succ_iff {key : String} {p : Presence} {shape : Shape} {rest : Fields}
    {n : Nat} : (Fields.cons key p shape rest).least ≤ n + 1 ↔ rest.least ≤ n := by
  cases p with
  | required => exact Nat.succ_le_succ_iff
  | nullable => exact Nat.succ_le_succ_iff
  | optional =>
      show (if rest.least = 0 then 0 else rest.least + 1) ≤ n + 1 ↔ _
      split <;> omega

/-- A field may stand behind the end of a list if it and all after it may be left out. -/
theorem Fields.least_cons_eq_zero_iff {key : String} {p : Presence} {shape : Shape}
    {rest : Fields} :
    (Fields.cons key p shape rest).least = 0 ↔ p = .optional ∧ rest.least = 0 := by
  cases p with
  | required => simp [Fields.least]
  | nullable => simp [Fields.least]
  | optional => simp [Fields.least]

/-- Fields are filled by the elements of a list if these are enough and not too many, and hold the
contents in their order. -/
theorem Fields.decodeListed_eq_ok_iff (fs : Fields)
    (hexact : ∀ key p shape, fs.Has key p shape → shape.Exact) (wanted : String) (index : Nat)
    (xs : List Value) (data : fs.Data) :
    fs.decodeListed wanted index xs = .ok (data, []) ↔
      (fs.least ≤ xs.length ∧ xs.length ≤ fs.count) ∧ fs.Fill (fun _ i => xs[i]?) data := by
  induction fs generalizing index xs with
  | nil =>
      show Except.ok ((), xs) = .ok ((), []) ↔ (0 ≤ xs.length ∧ xs.length ≤ 0) ∧ True
      simp
  | cons key p shape rest ih =>
      obtain ⟨content, more⟩ := data
      have hshape := hexact _ _ _ (.head key p shape rest)
      have ih := ih (fun _ _ _ h => hexact _ _ _ (.tail _ _ _ h)) (index + 1)
      cases xs with
      | cons v xs =>
          have hcell := decodeCell_eq_ok_iff hshape p v
          show _ ↔ (_ ≤ xs.length + 1 ∧ xs.length + 1 ≤ rest.count + 1) ∧
            p.Holds shape.Fits (some v) content ∧ rest.Fill (fun _ i => xs[i]?) more
          rw [Fields.least_cons_le_succ_iff, Nat.succ_le_succ_iff, and_left_comm, ← ih, ← hcell,
            Fields.decodeListed]
          cases decodeCell shape.decode p v with
          | error m => simp
          | ok content' => exact map_pair_eq_ok_iff.trans (by rw [Except.ok.injEq])
      | nil =>
          show _ ↔ (_ ≤ 0 ∧ 0 ≤ rest.count + 1) ∧
            p.Holds shape.Fits none content ∧ rest.Fill (fun _ _ => none) more
          rw [Nat.le_zero, Fields.least_cons_eq_zero_iff, Fields.decodeListed]
          have hrest := ih [] more
          rw [List.length_nil, Nat.le_zero] at hrest
          have hslot : p.unlisted? shape.Datum = some content ↔ _ := unlisted?_eq_some_iff p content
          cases hlisted : p.unlisted? shape.Datum with
          | none =>
              rw [hlisted] at hslot
              constructor
              · intro h
                cases h
              · rintro ⟨⟨⟨hp, -⟩, -⟩, hcell, -⟩
                cases hslot.mpr ⟨hp, hcell⟩
          | some content' =>
              rw [hlisted, Option.some_inj] at hslot
              refine map_pair_eq_ok_iff.trans ?_
              rw [hslot, hrest]
              constructor
              · rintro ⟨⟨hp, hcell⟩, ⟨hleast, -⟩, hfill⟩
                exact ⟨⟨⟨hp, hleast⟩, Nat.zero_le _⟩, hcell, hfill⟩
              · rintro ⟨⟨⟨hp, hleast⟩, -⟩, hcell, hfill⟩
                exact ⟨⟨hp, hcell⟩, ⟨hleast, Nat.zero_le _⟩, hfill⟩

/-! ### Decoding an object -/

/-- A field takes the member with its key, if there is one, and else stays as it is. -/
def Takes (shape : Shape) (p : Presence) (member : Option Value)
    (cell cell' : Option (p.Cell shape.Datum)) : Prop :=
  match member with
  | none => cell' = cell
  | some v => ∃ content, decodeCell shape.decode p v = .ok content ∧ cell' = some content

/-- Every field takes the member that is found by its key. -/
def Fields.Absorbs : (fs : Fields) → (String → Option Value) → fs.Partial → fs.Partial → Prop
  | .nil, _, _, _ => True
  | .cons key p shape rest, find, (cell, more), (cell', more') =>
    Takes shape p (find key) cell cell' ∧ rest.Absorbs find more more'

/-- What is found by other keys makes no difference. -/
theorem Fields.absorbs_congr {find find' : String → Option Value} (fs : Fields)
    (h : ∀ key ∈ fs.keys, find key = find' key) (record record' : fs.Partial) :
    fs.Absorbs find record record' ↔ fs.Absorbs find' record record' := by
  induction fs with
  | nil => exact Iff.rfl
  | cons key p shape rest ih =>
      obtain ⟨cell, more⟩ := record
      obtain ⟨cell', more'⟩ := record'
      have hkey : find key = find' key := h key List.mem_cons_self
      have ih := ih (fun k hk => h k (List.mem_cons_of_mem _ hk)) more more'
      show Takes shape p (find key) cell cell' ∧ _ ↔ Takes shape p (find' key) cell cell' ∧ _
      rw [hkey, ih]

theorem Fields.absorbs_none (fs : Fields) (record record' : fs.Partial) :
    fs.Absorbs (fun _ => none) record record' ↔ record' = record := by
  induction fs with
  | nil => exact ⟨fun _ => rfl, fun _ => trivial⟩
  | cons key p shape rest ih =>
      obtain ⟨cell, more⟩ := record
      obtain ⟨cell', more'⟩ := record'
      show cell' = cell ∧ rest.Absorbs (fun _ => none) more more' ↔ _
      rw [ih more more']
      exact Prod.mk_inj.symm

/-- To take one member and then those with other keys is to take them all. -/
theorem Fields.exists_take_absorbs_iff {key : String} {v : Value} {find : String → Option Value}
    (hnew : find key = none) (fs : Fields) (hsep : fs.separate = true)
    (record record' : fs.Partial) :
    (∃ next, fs.take key v record = some next ∧ fs.Absorbs find next record') ↔
      fs.Absorbs (fun k => if k = key then some v else find k) record record' := by
  induction fs with
  | nil => exact ⟨fun _ => trivial, fun _ => ⟨(), rfl, trivial⟩⟩
  | cons k p shape rest ih =>
      obtain ⟨cell, more⟩ := record
      obtain ⟨cell', more'⟩ := record'
      obtain ⟨hk, -, hrest⟩ := Fields.separate_cons.mp hsep
      show _ ↔ Takes shape p (if k = key then some v else find k) cell cell' ∧ _
      by_cases hown : k = key
      · -- the member is for this field, and none of the others has its key
        subst hown
        have hothers : rest.Absorbs find more more' ↔
            rest.Absorbs (fun k' => if k' = k then some v else find k') more more' :=
          rest.absorbs_congr (fun k' hk' => (if_neg (ne_of_mem_of_not_mem hk' hk)).symm) more more'
        rw [if_pos rfl, Fields.take_own, ← hothers]
        constructor
        · rintro ⟨next, htake, habsorbs⟩
          obtain ⟨content, hdecode, rfl⟩ := Option.map_eq_some_iff.mp htake
          obtain ⟨hcell, hmore⟩ : Takes shape p (find k) (some content) cell' ∧ _ := habsorbs
          rw [hnew] at hcell
          exact ⟨⟨content, toOption_eq_some_iff.mp hdecode, hcell⟩, hmore⟩
        · rintro ⟨⟨content, hdecode, rfl⟩, hmore⟩
          have hcell : Takes shape p (find k) (some content) (some content) := by
            rw [hnew]
            rfl
          exact ⟨(some content, more), by rw [hdecode]; rfl, hcell, hmore⟩
      · rw [if_neg hown, Fields.take_other (Ne.symm hown), ← ih hrest more more']
        constructor
        · rintro ⟨next, htake, hcell, habsorbs⟩
          obtain ⟨more₁, hmore, rfl⟩ := Option.map_eq_some_iff.mp htake
          exact ⟨hcell, more₁, hmore, habsorbs⟩
        · rintro ⟨hcell, more₁, hmore, habsorbs⟩
          exact ⟨(cell, more₁), by rw [hmore]; rfl, hcell, habsorbs⟩

/-- Members with different keys go each to the field with its key. -/
theorem decodeMembers_eq_some_iff {fs : Fields} (hsep : fs.separate = true)
    {ms : List (String × Value)} (hkeys : (ms.map Prod.fst).Nodup) (record record' : fs.Partial) :
    (decodeMembers fs.offerValue record ms).toOption = some record' ↔
      fs.Absorbs (fun key => ms.lookup key) record record' := by
  induction ms generalizing record with
  | nil =>
      refine Iff.trans ?_ (fs.absorbs_none record record').symm
      exact Option.some_inj.trans eq_comm
  | cons m ms ih =>
      obtain ⟨key, v⟩ := m
      rw [List.map_cons, List.nodup_cons] at hkeys
      have hnew := Value.lookup_eq_none_of_notMem hkeys.1
      rw [decodeMembers_cons, Option.bind_eq_some_iff]
      simp only [ih hkeys.2, Value.lookup_cons]
      exact Fields.exists_take_absorbs_iff hnew fs hsep record record'

/-- What a field is complete with that started out unseen. -/
theorem exists_takes_iff {shape : Shape} (h : shape.Exact) (p : Presence) (member : Option Value)
    (content : p.Cell shape.Datum) :
    (∃ cell, Takes shape p member none cell ∧ cell.or (p.absent? shape.Datum) = some content) ↔
      p.Holds shape.Fits member content := by
  cases member with
  | none =>
      rw [← absent?_eq_some_iff]
      simp [Takes]
  | some v =>
      rw [← decodeCell_eq_ok_iff h]
      simp [Takes]

theorem map_mk_eq_ok_iff {ε α β : Type} {x : Except ε β} {a a' : α} {b : β} :
    x.map (a', ·) = .ok (a, b) ↔ a' = a ∧ x = .ok b := by
  cases x <;> simp [Except.map, Prod.ext_iff]

theorem Fields.complete_cons_eq_ok_iff {key : String} {p : Presence} {shape : Shape} {rest : Fields}
    {cell : Option (p.Cell shape.Datum)} {record : rest.Partial} {content : p.Cell shape.Datum}
    {more : rest.Data} :
    (Fields.cons key p shape rest).complete (cell, record) = .ok (content, more) ↔
      cell.or (p.absent? shape.Datum) = some content ∧ rest.complete record = .ok more := by
  rw [Fields.complete]
  cases cell.or (p.absent? shape.Datum) with
  | none => simp
  | some content' => exact map_mk_eq_ok_iff.trans (by rw [Option.some_inj])

/-- The fields of an object are complete exactly if the members found by their keys fill them. -/
theorem Fields.exists_complete_iff (find : String → Option Value) (fs : Fields)
    (hexact : ∀ key p shape, fs.Has key p shape → shape.Exact) (data : fs.Data) :
    (∃ record, fs.Absorbs find fs.unseen record ∧ fs.complete record = .ok data) ↔
      fs.Fill (fun key _ => find key) data := by
  induction fs with
  | nil => exact ⟨fun _ => trivial, fun _ => ⟨(), trivial, rfl⟩⟩
  | cons key p shape rest ih =>
      obtain ⟨content, more⟩ := data
      have hshape := hexact _ _ _ (.head key p shape rest)
      have hcell := exists_takes_iff hshape p (find key) content
      have ih := ih (fun _ _ _ h => hexact _ _ _ (.tail _ _ _ h)) more
      show _ ↔ p.Holds shape.Fits (find key) content ∧ _
      rw [← ih, ← hcell]
      constructor
      · rintro ⟨⟨cell, record⟩, ⟨htakes, habsorbs⟩, hcomplete⟩
        obtain ⟨hcontent, hmore⟩ := Fields.complete_cons_eq_ok_iff.mp hcomplete
        exact ⟨⟨cell, htakes, hcontent⟩, record, habsorbs, hmore⟩
      · rintro ⟨⟨cell, htakes, hcontent⟩, record, habsorbs, hmore⟩
        exact ⟨(cell, record), ⟨htakes, habsorbs⟩,
          Fields.complete_cons_eq_ok_iff.mpr ⟨hcontent, hmore⟩⟩

/-! ### All shapes -/

theorem wholeOf_eq_ok_iff {n : Number} {i : Int} :
    wholeOf n = .ok i ↔ IsWhole (.number n) i := by
  cases n with
  | whole m =>
      rw [wholeOf, IsWhole, Value.number.injEq, Number.whole.injEq]
      by_cases h : minWhole ≤ m ∧ m ≤ maxWhole
      · rw [if_pos h, Except.ok.injEq]
        omega
      · rw [if_neg h]
        simp only [reduceCtorEq, false_iff]
        omega
  | real x => simp [wholeOf, IsWhole]

theorem Shape.Exact.list {item : Shape} (h : item.Exact) : (Shape.list item).Exact := by
  intro v xs
  cases v with
  | list vs =>
      refine (decodeItems_eq_ok_iff h vs xs).trans ?_
      constructor
      · exact fun hall => ⟨vs, rfl, hall⟩
      · rintro ⟨vs', hvs, hall⟩
        obtain rfl : vs = vs' := Value.list.inj hvs
        exact hall
  | _ =>
      constructor
      · exact fun h => by cases h
      · rintro ⟨_, h, -⟩
        cases h

theorem Shape.decode_list_eq_ok_iff {name : String} {fields : Fields} {xs : List Value}
    {data : fields.Data} :
    (Shape.record name fields).decode (.list xs) = .ok data ↔
      fields.decodeListed (recordLength name fields) 0 xs = .ok (data, []) := by
  rw [decode_record_list]
  rcases fields.decodeListed (recordLength name fields) 0 xs with m | ⟨data', _ | ⟨x, left⟩⟩
  · simp
  · constructor <;>
      · intro h
        cases h
        rfl
  · -- an element is left over
    simp

theorem Shape.decode_object_eq_ok_iff {name : String} {fields : Fields}
    {ms : List (String × Value)} {data : fields.Data} :
    (Shape.record name fields).decode (.object ms) = .ok data ↔
      ∃ record, decodeMembers fields.offerValue fields.unseen (Value.orderMembers ms) = .ok record ∧
        fields.complete record = .ok data := by
  rw [decode_record_object]
  show _ ↔ ∃ record, decodeMembers _ _ (Value.object ms).members = _ ∧ _
  cases decodeMembers fields.offerValue fields.unseen (Value.object ms).members with
  | error m => simp
  | ok record =>
      constructor
      · exact fun h => ⟨record, rfl, h⟩
      · rintro ⟨_, h, hcomplete⟩
        cases h
        exact hcomplete

theorem Shape.exact_record {fields : Fields} (hsep : fields.separate = true)
    (h : ∀ key p shape, fields.Has key p shape → shape.Exact) (name : String) :
    (Shape.record name fields).Exact := by
  intro v data
  cases v with
  | list xs =>
      exact decode_list_eq_ok_iff.trans
        (fields.decodeListed_eq_ok_iff h (recordLength name fields) 0 xs data)
  | object ms =>
      have hmembers := decodeMembers_eq_some_iff hsep (Value.nodup_orderMembers ms) fields.unseen
      have hcomplete := fields.exists_complete_iff (fun key => ms.reverse.lookup key) h data
      simp only [Value.lookup_orderMembers, toOption_eq_some_iff] at hmembers
      simp only [← hmembers] at hcomplete
      exact (decode_object_eq_ok_iff.trans hcomplete).trans (Iff.of_eq (true_and _)).symm
  | _ =>
      constructor
      · exact fun h => by cases h
      · exact fun h => h.1.elim

theorem Fields.separate_of_has {fs : Fields} {key : String} {p : Presence} {shape : Shape}
    (h : fs.Has key p shape) (hsep : fs.separate = true) : shape.separate = true := by
  induction h with
  | head => exact (Fields.separate_cons.mp hsep).2.1
  | tail _ _ _ _ ih => exact ih (Fields.separate_cons.mp hsep).2.2

/-- **Decoding gives exactly the data that a value fits**, whatever the shape, as long as none of
its records has two fields with one key. -/
theorem Shape.decode_eq_ok_iff (shape : Shape) (hsep : shape.separate = true) (v : Value)
    (data : shape.Datum) : shape.decode v = .ok data ↔ shape.Fits v data := by
  revert v data
  change shape.Exact
  induction shape using Shape.induction with
  | text =>
      intro v t
      cases v with
      | text s =>
          exact (Iff.of_eq (Except.ok.injEq _ _)).trans (Iff.of_eq (Value.text.injEq _ _)).symm
      | _ => constructor <;> exact fun h => by cases h
  | flag =>
      intro v b
      cases v with
      | flag c =>
          exact (Iff.of_eq (Except.ok.injEq _ _)).trans (Iff.of_eq (Value.flag.injEq _ _)).symm
      | _ => constructor <;> exact fun h => by cases h
  | whole =>
      intro v n
      cases v with
      | number m => exact wholeOf_eq_ok_iff
      | _ =>
          constructor
          · exact fun h => by cases h
          · exact fun h => by cases h.1
  | list item ih => exact (ih hsep).list
  | record name fields ih =>
      have hfields key p shape (h : fields.Has key p shape) : shape.Exact :=
        ih key p shape h (fields.separate_of_has h hsep)
      exact exact_record hsep hfields name

end Payload
end RailWatch

import RailWatch.Proofs.Payload.Format
/-!
# RailWatch.Proofs.Payload.Respelling

Ways to write the same payload.

The same data can be written in many ways (`Respelled`): the members of an object may stand in any
order, there may be others that no field asks for, a field that may be missing may as well be null,
and an object may be written as the list of its fields. Each of these is one rule, and any record
inside may be written in another way.

The centrepiece is `Respelled.alike`: a value that is written in another way fits the same data. So
a payload that is written in another way is one of the same days (`Respelled.isPayload_iff`).
-/

namespace RailWatch

open Json

namespace Payload

/-- The same data of a shape, written in two ways. -/
inductive Respelled : Shape → Value → Value → Prop
  | refl {shape : Shape} (v : Value) : Respelled shape v v
  | symm {shape : Shape} {v w : Value} : Respelled shape v w → Respelled shape w v
  | trans {shape : Shape} {u v w : Value} :
      Respelled shape u v → Respelled shape v w → Respelled shape u w
  /-- The members of an object stand in another order. -/
  | order {name : String} {fields : Fields} {ms ms' : List (String × Value)} :
      ms.Perm ms' → (ms.map Prod.fst).Nodup →
      Respelled (.record name fields) (.object ms) (.object ms')
  /-- There is a member that no field has the key of. -/
  | unknown {name : String} {fields : Fields} (before after : List (String × Value)) {key : String}
      {v : Value} : key ∉ fields.keys →
      Respelled (.record name fields) (.object (before ++ (key, v) :: after))
        (.object (before ++ after))
  /-- A field that may be missing is null. -/
  | null {name : String} {fields : Fields} (before after : List (String × Value)) {key : String}
      {p : Presence} {shape : Shape} : fields.Has key p shape → p ≠ .required →
      key ∉ (before ++ after).map Prod.fst →
      Respelled (.record name fields) (.object (before ++ (key, .null) :: after))
        (.object (before ++ after))
  /-- The fields are listed in their order, those left out that may be missing at the end. -/
  | listed {name : String} {fields : Fields} {xs : List Value} :
      fields.least ≤ xs.length → xs.length ≤ fields.count →
      Respelled (.record name fields) (.list xs) (.object (fields.keys.zip xs))
  /-- What is under the key of a field is written in another way. -/
  | member {name : String} {fields : Fields} (before after : List (String × Value)) {key : String}
      {p : Presence} {shape : Shape} {v w : Value} : fields.Has key p shape →
      Respelled shape v w →
      Respelled (.record name fields) (.object (before ++ (key, v) :: after))
        (.object (before ++ (key, w) :: after))
  /-- An element of a list is written in another way. -/
  | item {item : Shape} (before after : List Value) {v w : Value} : Respelled item v w →
      Respelled (.list item) (.list (before ++ v :: after)) (.list (before ++ w :: after))

/-! ### Fields and what fills them -/

theorem Fields.Has.mem_keys {fs : Fields} {key : String} {p : Presence} {shape : Shape}
    (h : fs.Has key p shape) : key ∈ fs.keys := by
  induction h with
  | head => exact List.mem_cons_self
  | tail _ _ _ _ ih => exact List.mem_cons_of_mem _ ih

/-- There is one field with a key only. -/
theorem Fields.Has.unique {fs : Fields} (hsep : fs.separate = true) {key : String} {p p' : Presence}
    {shape shape' : Shape} (h : fs.Has key p shape) (h' : fs.Has key p' shape') :
    p' = p ∧ shape' = shape := by
  induction h with
  | head =>
      cases h' with
      | head => exact ⟨rfl, rfl⟩
      | tail _ _ _ hrest => exact absurd hrest.mem_keys (Fields.separate_cons.mp hsep).1
  | tail _ _ _ h ih =>
      obtain ⟨hkey, -, hrest⟩ := Fields.separate_cons.mp hsep
      cases h' with
      | head => exact absurd h.mem_keys hkey
      | tail _ _ _ h' => exact ih hrest h'

/-- Members that hold the same for each field fill the fields with the same. -/
theorem Fields.fill_congr {find find' : String → Option Value} (fs : Fields)
    (h : ∀ key p shape, fs.Has key p shape → ∀ content : p.Cell shape.Datum,
      p.Holds shape.Fits (find key) content ↔ p.Holds shape.Fits (find' key) content)
    (data : fs.Data) :
    fs.Fill (fun key _ => find key) data ↔ fs.Fill (fun key _ => find' key) data := by
  induction fs with
  | nil => exact Iff.rfl
  | cons key p shape rest ih =>
      obtain ⟨content, more⟩ := data
      exact and_congr (h key p shape (.head key p shape rest) content)
        (ih (fun _ _ _ hrest => h _ _ _ (.tail _ _ _ hrest)) more)

/-- Fields are filled by the elements of a list as by the same values under their keys. -/
theorem Fields.fill_zip_keys (fs : Fields) (hsep : fs.separate = true) (xs : List Value)
    (data : fs.Data) : fs.Fill (fun _ i => xs[i]?) data ↔
      fs.Fill (fun key _ => (fs.keys.zip xs).reverse.lookup key) data := by
  induction fs generalizing xs with
  | nil => exact Iff.rfl
  | cons key p shape rest ih =>
      obtain ⟨content, more⟩ := data
      obtain ⟨hkey, -, hrest⟩ := Fields.separate_cons.mp hsep
      cases xs with
      | nil => exact Iff.rfl
      | cons x xs =>
          -- the first element is for `key`, and the others are not
          have hfind k : (((Fields.cons key p shape rest).keys.zip (x :: xs)).reverse.lookup k) =
              ((rest.keys.zip xs).reverse.lookup k).or (if k = key then some x else none) :=
            Value.lookup_reverse_append_cons k key x [] (rest.keys.zip xs)
          have hown : (rest.keys.zip xs).reverse.lookup key = none :=
            Value.lookup_reverse_eq_none fun h => by
              obtain ⟨⟨k, v⟩, hmem, rfl⟩ := List.mem_map.mp h
              exact hkey (List.of_mem_zip hmem).1
          simp only [hfind]
          refine and_congr ?_ ((ih hrest xs more).trans
            (rest.fill_congr (fun k p' shape' hk content' => ?_) more))
          · simp [hown]
          · have hne : k ≠ key := ne_of_mem_of_not_mem hk.mem_keys hkey
            simp [hne]

theorem forall₂_congr_item {α : Type} {holds : Value → α → Prop} {v w : Value}
    (h : ∀ x, holds v x ↔ holds w x) (before after : List Value) (xs : List α) :
    List.Forall₂ holds (before ++ v :: after) xs ↔
      List.Forall₂ holds (before ++ w :: after) xs := by
  induction before generalizing xs with
  | nil => cases xs <;> simp [h]
  | cons u before ih => cases xs <;> simp [ih]

/-! ### Values that are alike -/

/-- Two values fit the same data, and one of them is null only if the other is. For a field that may
be missing null counts, though it is not data of any shape. -/
structure Shape.Alike (shape : Shape) (v w : Value) : Prop where
  null : v = .null ↔ w = .null
  fits : ∀ data, shape.Fits v data ↔ shape.Fits w data

theorem Shape.Alike.holds {shape : Shape} {v w : Value} (h : shape.Alike v w) (p : Presence)
    (content : p.Cell shape.Datum) :
    p.Holds shape.Fits (some v) content ↔ p.Holds shape.Fits (some w) content := by
  have hgiven x : Given shape.Fits (some v) x ↔ Given shape.Fits (some w) x := by
    simp [Given, h.fits x]
  have homissible o : Omissible shape.Fits (some v) o ↔ Omissible shape.Fits (some w) o := by
    cases o with
    | none => simp [Omissible, h.null]
    | some x => exact hgiven x
  cases p with
  | required => exact hgiven content
  | nullable => exact homissible content
  | optional => exact homissible content

/-- A field that may be missing holds null as it holds nothing. -/
theorem holds_null_iff {shape : Shape} {p : Presence} (hp : p ≠ .required)
    (content : p.Cell shape.Datum) :
    p.Holds shape.Fits (some .null) content ↔ p.Holds shape.Fits none content := by
  have homissible (o : Option shape.Datum) :
      Omissible shape.Fits (some .null) o ↔ Omissible shape.Fits none o :=
    (omissible_null_iff shape.not_fits_null).trans omissible_none_iff.symm
  cases p with
  | required => exact absurd rfl hp
  | nullable => exact homissible content
  | optional => exact homissible content

/-- Objects are alike if each field holds the same in both. -/
theorem Shape.alike_object {name : String} {fields : Fields} {ms ms' : List (String × Value)}
    (h : ∀ key p shape, fields.Has key p shape → ∀ content : p.Cell shape.Datum,
      p.Holds shape.Fits (ms.reverse.lookup key) content ↔
        p.Holds shape.Fits (ms'.reverse.lookup key) content) :
    (Shape.record name fields).Alike (.object ms) (.object ms') :=
  ⟨by simp, fun data => and_congr_right' (fields.fill_congr h data)⟩

/-- **A value that is written in another way fits the same data.** -/
theorem Respelled.alike {shape : Shape} {v w : Value} (h : Respelled shape v w)
    (hsep : shape.separate = true) : shape.Alike v w := by
  induction h with
  | refl v => exact ⟨Iff.rfl, fun _ => Iff.rfl⟩
  | symm _ ih => exact ⟨(ih hsep).null.symm, fun data => ((ih hsep).fits data).symm⟩
  | trans _ _ ih ih' =>
      exact ⟨(ih hsep).null.trans (ih' hsep).null,
        fun data => ((ih hsep).fits data).trans ((ih' hsep).fits data)⟩
  | @order name fields ms ms' hperm hkeys =>
      -- a member is looked up from the end, where the last one with its key is found
      refine Shape.alike_object fun key p shape _ content => ?_
      have hreverse : ms.reverse.Perm ms'.reverse :=
        ms.reverse_perm.trans (hperm.trans ms'.reverse_perm.symm)
      rw [Value.lookup_perm hreverse (by rwa [List.map_reverse, List.nodup_reverse])]
  | @unknown name fields before after key v hkey =>
      refine Shape.alike_object fun k p shape hk content => ?_
      have hne : k ≠ key := ne_of_mem_of_not_mem hk.mem_keys hkey
      rw [Value.lookup_reverse_append_cons, if_neg hne, List.reverse_append, List.lookup_append]
  | @null name fields before after key p shape hkey hp hnew =>
      refine Shape.alike_object fun k p' shape' hk content => ?_
      rw [Value.lookup_reverse_append_cons, List.reverse_append, List.lookup_append]
      by_cases hown : k = key
      · subst hown
        obtain ⟨rfl, rfl⟩ := hkey.unique hsep hk
        rw [List.map_append, List.mem_append, not_or] at hnew
        rw [Value.lookup_reverse_eq_none hnew.1, Value.lookup_reverse_eq_none hnew.2, if_pos rfl]
        exact holds_null_iff hp content
      · rw [if_neg hown]
  | @listed name fields xs hleast hmost =>
      refine ⟨by simp, fun data => ?_⟩
      have hzip := fields.fill_zip_keys hsep xs data
      exact ⟨fun h => ⟨trivial, hzip.mp h.2⟩, fun h => ⟨⟨hleast, hmost⟩, hzip.mpr h.2⟩⟩
  | @member name fields before after key p shape v w hkey _ ih =>
      have halike := ih (fields.separate_of_has hkey hsep)
      refine Shape.alike_object fun k p' shape' hk content => ?_
      rw [Value.lookup_reverse_append_cons, Value.lookup_reverse_append_cons]
      by_cases hown : k = key
      · subst hown
        obtain ⟨rfl, rfl⟩ := hkey.unique hsep hk
        cases after.reverse.lookup k with
        | some _ => exact Iff.rfl -- a later member with this key is the one that counts
        | none =>
            rw [if_pos rfl, if_pos rfl]
            exact halike.holds _ content
      · rw [if_neg hown, if_neg hown]
  | @item item before after v w _ ih =>
      refine ⟨by simp, fun xs => ?_⟩
      have hitems := forall₂_congr_item (ih hsep).fits before after xs
      constructor
      · rintro ⟨_, hlist, hall⟩
        cases hlist
        exact ⟨_, rfl, hitems.mp hall⟩
      · rintro ⟨_, hlist, hall⟩
        cases hlist
        exact ⟨_, rfl, hitems.mpr hall⟩

/-- A payload written in another way is one of the same days. -/
theorem Respelled.isPayload_iff {v w : Value} (h : Respelled payloadShape v w)
    (days : List DayRecord) : IsPayload v days ↔ IsPayload w days :=
  (mirrors_day.list v days).trans <| Iff.trans
    (exists_congr fun data => and_congr_right' ((h.alike separate_payloadShape).fits data))
    (mirrors_day.list w days).symm

end Payload
end RailWatch

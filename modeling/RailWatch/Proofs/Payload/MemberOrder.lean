import Mathlib.Data.List.Nodup
import RailWatch.Payload.Decode
import RailWatch.Proofs.Outcome
/-!
# RailWatch.Proofs.Payload.MemberOrder

The order of the members of an object makes no difference to the record that is decoded from it.

What may depend on the order is only which of several mismatches is reported, so the theorems are
about `Except.toOption` of a result: the data, or that there are none. Members with different keys
go into different fields, so two of them may change places (`Fields.take_comm`), and then any number
of them (`decodeMembers_perm`). In particular they may be put into the order of their keys
(`decode_object`).
-/

namespace RailWatch

namespace Json.Value

/-! ### The order of keys -/

theorem insertMember_perm {key : String} {v : Value} {ms : List (String × Value)}
    (h : key ∉ ms.map Prod.fst) : (insertMember key v ms).Perm ((key, v) :: ms) := by
  induction ms with
  | nil => exact .refl _
  | cons m ms ih =>
      obtain ⟨k, w⟩ := m
      rw [List.map_cons, List.mem_cons, not_or] at h
      unfold insertMember
      split
      · exact .refl _
      · rw [if_neg h.1]
        exact ((ih h.2).cons _).trans (.swap _ _ _)

theorem foldl_insertMember_perm (ms : List (String × Value)) :
    ∀ acc, ((ms ++ acc).map Prod.fst).Nodup →
      (ms.foldl (fun acc m => insertMember m.1 m.2 acc) acc).Perm (ms ++ acc) := by
  induction ms with
  | nil => exact fun acc _ => .refl _
  | cons m ms ih =>
      intro acc h
      rw [List.cons_append, List.map_cons, List.nodup_cons, List.map_append, List.mem_append,
        not_or] at h
      -- the key of `m` is not among those put in so far
      have hinsert : (insertMember m.1 m.2 acc).Perm (m :: acc) := insertMember_perm h.1.2
      have hmove : (ms ++ insertMember m.1 m.2 acc).Perm (m :: (ms ++ acc)) :=
        (hinsert.append_left ms).trans List.perm_middle
      refine (ih _ ?_).trans hmove
      rw [(hmove.map Prod.fst).nodup_iff, List.map_cons, List.nodup_cons, List.map_append,
        List.mem_append, not_or]
      exact h

/-- If no key is given twice, the members in the order of their keys are all the members. -/
theorem orderMembers_perm {ms : List (String × Value)} (h : (ms.map Prod.fst).Nodup) :
    (orderMembers ms).Perm ms := by
  have := foldl_insertMember_perm ms [] (by rwa [List.append_nil])
  rwa [List.append_nil] at this

end Json.Value

namespace Payload

open Json

/-! ### Members in any order -/

/-- The record after a member was offered to it, unless something is wrong with the member. -/
def Fields.take (fs : Fields) (key : String) (v : Value) (record : fs.Partial) :
    Option fs.Partial :=
  match fs.offerValue key v record with
  | none => some record
  | some r => r.toOption

theorem Fields.take_nil (key : String) (v : Value) (record : Fields.nil.Partial) :
    Fields.nil.take key v record = some record := rfl

theorem Fields.take_own (k : String) (p : Presence) (shape : Shape) (rest : Fields) (v : Value)
    (cell : Option (p.Cell shape.Datum)) (more : rest.Partial) :
    (Fields.cons k p shape rest).take k v (cell, more) =
      (decodeCell shape.decode p v).toOption.map fun content => (some content, more) := by
  unfold Fields.take
  rw [Fields.offerValue, if_pos rfl]
  exact toOption_map _ _

theorem Fields.take_other {k key : String} (h : key ≠ k) (p : Presence) (shape : Shape)
    (rest : Fields) (v : Value) (cell : Option (p.Cell shape.Datum)) (more : rest.Partial) :
    (Fields.cons k p shape rest).take key v (cell, more) =
      (rest.take key v more).map fun more => (cell, more) := by
  unfold Fields.take
  rw [Fields.offerValue, if_neg h]
  cases rest.offerValue key v more with
  | none => rfl
  | some r => exact toOption_map r _

theorem Fields.bind_take_other {k key : String} (h : key ≠ k) (p : Presence) (shape : Shape)
    (rest : Fields) (v : Value) (cell : Option (p.Cell shape.Datum))
    (more : Option rest.Partial) :
    (more.map fun more => (cell, more)).bind ((Fields.cons k p shape rest).take key v) =
      (more.bind (rest.take key v)).map fun more => (cell, more) := by
  cases more with
  | none => rfl
  | some more => exact Fields.take_other h p shape rest v cell more

/-- A member for the first field and one for another field may change places. -/
theorem Fields.take_comm_own {k key : String} (h : key ≠ k) (p : Presence) (shape : Shape)
    (rest : Fields) (v v' : Value) (cell : Option (p.Cell shape.Datum)) (more : rest.Partial) :
    ((Fields.cons k p shape rest).take k v (cell, more)).bind
        ((Fields.cons k p shape rest).take key v') =
      ((Fields.cons k p shape rest).take key v' (cell, more)).bind
        ((Fields.cons k p shape rest).take k v) := by
  rw [Fields.take_own, Fields.take_other h]
  cases hown : (decodeCell shape.decode p v).toOption with
  | none =>
      cases rest.take key v' more with
      | none => rfl
      | some more' =>
          show none = (Fields.cons k p shape rest).take k v (cell, more')
          rw [Fields.take_own, hown]
          rfl
  | some content =>
      show (Fields.cons k p shape rest).take key v' (some content, more) = _
      rw [Fields.take_other h]
      cases rest.take key v' more with
      | none => rfl
      | some more' =>
          show some (some content, more') = (Fields.cons k p shape rest).take k v (cell, more')
          rw [Fields.take_own, hown]
          rfl

/-- Members with different keys may change places. -/
theorem Fields.take_comm {key key' : String} (h : key ≠ key') (v v' : Value) :
    (fs : Fields) → (record : fs.Partial) →
      (fs.take key v record).bind (fs.take key' v') =
        (fs.take key' v' record).bind (fs.take key v)
  | .nil, record => by simp [Fields.take_nil]
  | .cons k p shape rest, (cell, more) => by
      by_cases hk : key = k
      · subst hk
        exact Fields.take_comm_own (Ne.symm h) p shape rest v v' cell more
      · by_cases hk' : key' = k
        · subst hk'
          exact (Fields.take_comm_own h p shape rest v' v cell more).symm
        · rw [Fields.take_other hk, Fields.take_other hk']
          refine (Fields.bind_take_other hk' p shape rest v' cell _).trans ?_
          rw [Fields.take_comm h v v' rest more]
          exact (Fields.bind_take_other hk p shape rest v cell _).symm

theorem decodeMembers_cons (fs : Fields) (key : String) (v : Value) (ms : List (String × Value))
    (record : fs.Partial) :
    (decodeMembers fs.offerValue record ((key, v) :: ms)).toOption =
      (fs.take key v record).bind fun record =>
        (decodeMembers fs.offerValue record ms).toOption := by
  rw [decodeMembers, Fields.take]
  rcases fs.offerValue key v record with _ | e | record' <;> rfl

theorem decodeMembers_eq_foldl (fs : Fields) (ms : List (String × Value)) :
    ∀ record, (decodeMembers fs.offerValue record ms).toOption =
      ms.foldl (fun r m => r.bind (fs.take m.1 m.2)) (some record) := by
  -- after a mismatch nothing more is looked at
  have hnone : ∀ ms : List (String × Value),
      ms.foldl (fun r m => r.bind (fs.take m.1 m.2)) none = none := by
    intro ms
    induction ms with
    | nil => rfl
    | cons m ms ih => exact ih
  induction ms with
  | nil => exact fun record => rfl
  | cons m ms ih =>
      intro record
      obtain ⟨key, v⟩ := m
      rw [List.foldl_cons, Option.bind_some, decodeMembers, Fields.take]
      rcases fs.offerValue key v record with _ | e | record'
      · exact ih record
      · exact (hnone ms).symm
      · exact ih record'

/-- **The order of the members makes no difference**, if no key is given twice. -/
theorem decodeMembers_perm (fs : Fields) {ms ms' : List (String × Value)} (h : ms.Perm ms')
    (hkeys : (ms.map Prod.fst).Nodup) (record : fs.Partial) :
    (decodeMembers fs.offerValue record ms).toOption =
      (decodeMembers fs.offerValue record ms').toOption := by
  rw [decodeMembers_eq_foldl, decodeMembers_eq_foldl]
  refine h.foldl_eq' (fun m hm m' hm' r => ?_) _
  by_cases hne : m = m'
  · rw [hne]
  · -- different members have different keys
    have hkey : m.1 ≠ m'.1 := fun hkey => hne (List.inj_on_of_nodup_map hkeys hm hm' hkey)
    cases r with
    | none => rfl
    | some record => exact fs.take_comm hkey m.2 m'.2 record

/-- An object is decoded as if its members were looked at in the order in which they were given. -/
theorem decode_object {name : String} {fields : Fields} {ms : List (String × Value)}
    (hkeys : (ms.map Prod.fst).Nodup) :
    ((Shape.record name fields).decode (.object ms)).toOption =
      (decodeMembers fields.offerValue fields.unseen ms).toOption.bind fun record =>
        (fields.complete record).toOption := by
  rw [decodeMembers_perm fields (Value.orderMembers_perm hkeys).symm hkeys,
    decode_record_object]
  show _ = (decodeMembers fields.offerValue fields.unseen (Value.object ms).members).toOption.bind _
  cases decodeMembers fields.offerValue fields.unseen (Value.object ms).members <;> rfl

end Payload
end RailWatch

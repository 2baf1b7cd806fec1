import Mathlib.Data.String.Basic
import RailWatch.Json.Value
/-!
# RailWatch.Proofs.Json.Members

The members of an object by their keys.

An object is looked at through `Value.members`, each key once and in the order of the keys. Looked
up by its key, a member is the last one that was given (`lookup_orderMembers`). A record that is
written as an object or as a list has its fields in **slots**, which are found by the key or by the
place of a field.
-/

namespace RailWatch.Json

namespace Value

/-! ### Members by their keys -/

theorem lookup_cons (k key : String) (v : Value) (ms : List (String × Value)) :
    ((key, v) :: ms).lookup k = if k = key then some v else ms.lookup k := by
  by_cases h : k = key
  · subst h
    simp
  · have hne : (k == key) = false := by simpa using h
    simp [List.lookup_cons, hne, h]

theorem lookup_eq_none_of_notMem {key : String} {ms : List (String × Value)}
    (h : key ∉ ms.map Prod.fst) : ms.lookup key = none := by
  rw [List.lookup_eq_none_iff]
  intro m hm
  have hne : key ≠ m.1 := fun heq => h (heq ▸ List.mem_map_of_mem hm)
  simpa using hne

/-- Looked up by its key, a member put in is found, and all others as before. -/
theorem lookup_insertMember (k key : String) (v : Value) (ms : List (String × Value)) :
    (insertMember key v ms).lookup k = if k = key then some v else ms.lookup k := by
  induction ms with
  | nil => exact lookup_cons k key v []
  | cons m ms ih =>
      obtain ⟨key', w⟩ := m
      unfold insertMember
      split
      · exact lookup_cons k key v _
      · split
        · next heq =>
            subst heq
            rw [lookup_cons, lookup_cons]
            split <;> rfl
        · next hne =>
            rw [lookup_cons, ih, lookup_cons]
            by_cases hk : k = key'
            · rw [if_pos hk, if_pos hk, if_neg (fun h => hne (h.symm.trans hk))]
            · rw [if_neg hk, if_neg hk]

/-- The member that counts for a key is the last one given. -/
theorem lookup_orderMembers (key : String) (ms : List (String × Value)) :
    (orderMembers ms).lookup key = ms.reverse.lookup key := by
  have h : ∀ acc : List (String × Value),
      (ms.foldl (fun acc m => insertMember m.1 m.2 acc) acc).lookup key =
        (ms.reverse.lookup key).or (acc.lookup key) := by
    induction ms with
    | nil => exact fun acc => rfl
    | cons m ms ih =>
        intro acc
        obtain ⟨key', v⟩ := m
        rw [List.foldl_cons, ih, lookup_insertMember, List.reverse_cons, List.lookup_append,
          Option.or_assoc, lookup_cons]
        split <;> rfl
  have hnil := h []
  rwa [List.lookup_nil, Option.or_none] at hnil

theorem mem_keys_insertMember {k key : String} {v : Value} {ms : List (String × Value)}
    (h : k ∈ (insertMember key v ms).map Prod.fst) : k = key ∨ k ∈ ms.map Prod.fst := by
  induction ms with
  | nil => simpa [insertMember] using h
  | cons m ms ih =>
      obtain ⟨key', w⟩ := m
      unfold insertMember at h
      rw [List.map_cons, List.mem_cons]
      split at h
      · simpa using h
      · split at h
        · rw [List.map_cons, List.mem_cons] at h
          exact h.imp_right .inr
        · rw [List.map_cons, List.mem_cons] at h
          rcases h with h | h
          · exact .inr (.inl h)
          · exact (ih h).imp_right .inr

/-- Putting a member in keeps the order of the keys. -/
theorem insertMember_ordered {key : String} {v : Value} {ms : List (String × Value)}
    (h : (ms.map Prod.fst).Pairwise (· < ·)) :
    ((insertMember key v ms).map Prod.fst).Pairwise (· < ·) := by
  induction ms with
  | nil => simp [insertMember]
  | cons m ms ih =>
      obtain ⟨key', w⟩ := m
      rw [List.map_cons, List.pairwise_cons] at h
      obtain ⟨hfirst, hrest⟩ := h
      unfold insertMember
      split
      · next hlt =>
          refine List.pairwise_cons.mpr ⟨fun k hk => ?_, List.pairwise_cons.mpr ⟨hfirst, hrest⟩⟩
          rcases List.mem_cons.mp hk with rfl | hk
          · exact hlt
          · exact hlt.trans (hfirst k hk)
      · next hnot =>
          split
          · next heq =>
              subst heq
              exact List.pairwise_cons.mpr ⟨hfirst, hrest⟩
          · next hne =>
              -- `key` goes somewhere behind `key'`, and is after it
              refine List.pairwise_cons.mpr ⟨fun k hk => ?_, ih hrest⟩
              rcases mem_keys_insertMember hk with rfl | hk
              · exact lt_of_le_of_ne (not_lt.mp hnot) (Ne.symm hne)
              · exact hfirst k hk

/-- In the order in which they are looked at no key is given twice. -/
theorem nodup_orderMembers (ms : List (String × Value)) :
    ((orderMembers ms).map Prod.fst).Nodup := by
  have h : ∀ acc : List (String × Value), (acc.map Prod.fst).Pairwise (· < ·) →
      ((ms.foldl (fun acc m => insertMember m.1 m.2 acc) acc).map Prod.fst).Pairwise (· < ·) := by
    induction ms with
    | nil => exact fun acc hacc => hacc
    | cons m ms ih => exact fun acc hacc => ih _ (insertMember_ordered hacc)
  exact (h [] List.Pairwise.nil).imp fun hlt => hlt.ne

/-- The last member with a key is found among those at the end first. -/
theorem lookup_reverse_append_cons (k key : String) (v : Value)
    (before after : List (String × Value)) :
    (before ++ (key, v) :: after).reverse.lookup k =
      (after.reverse.lookup k).or (if k = key then some v else before.reverse.lookup k) := by
  rw [List.reverse_append, List.reverse_cons, List.append_assoc, List.singleton_append,
    List.lookup_append, lookup_cons]

theorem lookup_reverse_eq_none {key : String} {ms : List (String × Value)}
    (h : key ∉ ms.map Prod.fst) : ms.reverse.lookup key = none :=
  lookup_eq_none_of_notMem (by rwa [List.map_reverse, List.mem_reverse])

/-- Where no key is given twice, a member is found by its key. -/
theorem lookup_eq_some_iff_mem {key : String} {v : Value} {ms : List (String × Value)}
    (hkeys : (ms.map Prod.fst).Nodup) : ms.lookup key = some v ↔ (key, v) ∈ ms := by
  induction ms with
  | nil => simp
  | cons m ms ih =>
      obtain ⟨key', w⟩ := m
      rw [List.map_cons, List.nodup_cons] at hkeys
      rw [lookup_cons, List.mem_cons, Prod.mk.injEq, ← ih hkeys.2]
      by_cases h : key = key'
      · subst h
        simp [lookup_eq_none_of_notMem hkeys.1, eq_comm]
      · simp [h]

/-- Members with different keys are found in any order as well. -/
theorem lookup_perm {ms ms' : List (String × Value)} (h : ms.Perm ms')
    (hkeys : (ms.map Prod.fst).Nodup) (key : String) : ms.lookup key = ms'.lookup key := by
  have hkeys' : (ms'.map Prod.fst).Nodup := (h.map Prod.fst).nodup_iff.mp hkeys
  refine Option.ext fun v => ?_
  rw [lookup_eq_some_iff_mem hkeys, lookup_eq_some_iff_mem hkeys', h.mem_iff]

/-! ### Slots -/

/-- Where a record, written as this value, has the field `key`, the one at `index` in the order of
its fields: the last member with the key, or the element at the place. -/
def slot? : Value → String → Nat → Option Value
  | object ms, key, _ => ms.reverse.lookup key
  | list xs, _, index => xs[index]?
  | _, _, _ => none

/-- An object, or a list of no fewer than `least` and no more than `most` elements. -/
def HasRoom (least most : Nat) : Value → Prop
  | object _ => True
  | list xs => least ≤ xs.length ∧ xs.length ≤ most
  | _ => False

end Value

end RailWatch.Json

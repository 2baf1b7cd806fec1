import RailWatch.Payload.Shape
/-!
# RailWatch.Payload.Decode

Shapes taken from JSON values.

The members of an object are looked at in the order of their keys, each key once, so what is found
does not depend on the order in which an object was written. The first mismatch is reported.
-/

namespace RailWatch.Payload

open Json

/-- The content of a field, which may be null unless it is required. -/
def decodeCell {α : Type} (item : Value → Except Mismatch α) :
    (p : Presence) → Value → Except Mismatch (p.Cell α)
  | .required, v => item v
  | .nullable, .null | .optional, .null => .ok none
  | .nullable, v | .optional, v => (item v).map some

/-- Reads members into a record; those that it has no field for change nothing. -/
def decodeMembers {α : Type} (offer : String → Value → α → Option (Except Mismatch α)) :
    α → List (String × Value) → Except Mismatch α
  | record, [] => .ok record
  | record, (key, v) :: rest =>
    match offer key v record with
    | none => decodeMembers offer record rest
    | some (.ok record) => decodeMembers offer record rest
    | some (.error m) => .error m

/-- Reads every element of a list. -/
def decodeItems {α : Type} (item : Value → Except Mismatch α) :
    List Value → Except Mismatch (List α)
  | [] => .ok []
  | v :: rest =>
    match item v with
    | .error m => .error m
    | .ok x => (decodeItems item rest).map (x :: ·)

mutual

/-- The data of a shape that a value holds. -/
def Shape.decode : (shape : Shape) → Value → Except Mismatch shape.Datum
  | .text, .text t => .ok t
  | .text, v => .error (.kind v.seen Shape.text.describe)
  | .flag, .flag b => .ok b
  | .flag, v => .error (.kind v.seen Shape.flag.describe)
  | .whole, .number n => wholeOf n
  | .whole, v => .error (.kind v.seen Shape.whole.describe)
  | .list item, .list xs => decodeItems item.decode xs
  | .list item, v => .error (.kind v.seen (Shape.list item).describe)
  | .record name fields, .list xs =>
    match fields.decodeListed (recordLength name fields) 0 xs with
    | .error m => .error m
    | .ok (data, []) => .ok data
    | .ok (_, _ :: _) => .error (.length xs.length "fewer elements in array")
  | .record _ fields, .object ms =>
    match decodeMembers fields.offerValue fields.unseen (Value.object ms).members with
    | .error m => .error m
    | .ok record => fields.complete record
  | .record name fields, v => .error (.kind v.seen (Shape.record name fields).describe)

/-- The fields of a record from the elements of a list, and the elements left over. -/
def Fields.decodeListed : (fs : Fields) → String → Nat → List Value →
    Except Mismatch (fs.Data × List Value)
  | .nil, _, _, xs => .ok ((), xs)
  | .cons _ presence shape rest, wanted, index, v :: xs =>
    match decodeCell shape.decode presence v with
    | .error m => .error m
    | .ok content =>
      (rest.decodeListed wanted (index + 1) xs).map fun (more, xs) => ((content, more), xs)
  | .cons _ presence shape rest, wanted, index, [] =>
    match presence.unlisted? shape.Datum with
    | some content =>
      (rest.decodeListed wanted (index + 1) []).map fun (more, xs) => ((content, more), xs)
    | none => .error (.length index wanted)

/-- Reads a member into a record, if the record has a field with its key. -/
def Fields.offerValue : (fs : Fields) → String → Value → fs.Partial →
    Option (Except Mismatch fs.Partial)
  | .nil, _, _, _ => none
  | .cons key presence shape rest, k, v, (cell, more) =>
    if k = key then
      some ((decodeCell shape.decode presence v).map fun content => (some content, more))
    else (rest.offerValue k v more).map fun r => r.map fun more => (cell, more)

end

/-! The two ways to write a record. No equation is generated for a function that recurs through
both kinds of syntax at once, so these stand here. -/

theorem decode_record_list (name : String) (fields : Fields) (xs : List Value) :
    (Shape.record name fields).decode (.list xs) =
      match fields.decodeListed (recordLength name fields) 0 xs with
      | .error m => .error m
      | .ok (data, []) => .ok data
      | .ok (_, _ :: _) => .error (.length xs.length "fewer elements in array") := rfl

theorem decode_record_object (name : String) (fields : Fields)
    (ms : List (String × Value)) :
    (Shape.record name fields).decode (.object ms) =
      match decodeMembers fields.offerValue fields.unseen (Value.object ms).members with
      | .error m => .error m
      | .ok record => fields.complete record := rfl

end RailWatch.Payload

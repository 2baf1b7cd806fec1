import RailWatch.Json.Fault
/-!
# RailWatch.Payload.Shape

**Shapes**: what a payload has to look like, as data.

A shape is a kind of scalar, a list of one shape, or a record with named fields in a fixed order.
`Shape.Datum` is the type of the data that a shape describes, so a reader of a shape gives data
that need no further checks. The same shapes are read from a text (`RailWatch.Payload.Scan`) and
from a JSON value (`RailWatch.Payload.Decode`).

A record is written as an object with the fields as keys, in any order and among any other keys,
or as a list of the fields in their order.
-/

namespace RailWatch.Payload

open Json Text

/-- Whether a field of a record may be missing. -/
inductive Presence
  /-- The field has to be there. -/
  | required
  /-- The field may be null, and missing from an object, but not from a list. -/
  | nullable
  /-- The field may be null or missing, also from the end of a list. -/
  | optional
deriving DecidableEq

mutual

/-- What a value has to look like. -/
inductive Shape
  | text
  | flag
  | whole
  | list (item : Shape)
  | record (name : String) (fields : Fields)

/-- The fields of a record, in their order. -/
inductive Fields
  | nil
  | cons (key : String) (presence : Presence) (shape : Shape) (rest : Fields)

end

/-- The type of a field whose content has type `α`. -/
def Presence.Cell : Presence → Type → Type
  | required, α => α
  | nullable, α => Option α
  | optional, α => Option α

/-- What a field of an object holds that is missing from it, if it may be missing. -/
def Presence.absent? : (p : Presence) → (α : Type) → Option (p.Cell α)
  | required, _ => none
  | nullable, _ => some none
  | optional, _ => some none

/-- What a field of a list holds when the list ends before it, if it may be missing. -/
def Presence.unlisted? : (p : Presence) → (α : Type) → Option (p.Cell α)
  | required, _ => none
  | nullable, _ => none
  | optional, _ => some none

mutual

/-- The type of the data of a shape. -/
def Shape.Datum : Shape → Type
  | .text => String
  | .flag => Bool
  | .whole => Int
  | .list item => List item.Datum
  | .record _ fields => fields.Data

/-- The type of the contents of the fields of a record. -/
def Fields.Data : Fields → Type
  | .nil => Unit
  | .cons _ presence shape rest => presence.Cell shape.Datum × rest.Data

end

/-- The contents of the fields of a record of which some have not been seen yet. -/
def Fields.Partial : Fields → Type
  | .nil => Unit
  | .cons _ presence shape rest => Option (presence.Cell shape.Datum) × rest.Partial

/-- A record of which no field has been seen. -/
def Fields.unseen : (fs : Fields) → fs.Partial
  | .nil => ()
  | .cons _ _ _ rest => (none, rest.unseen)

/-- The contents of all fields, if no field is missing that has to be there; otherwise the first
one, in the order of the record, that is. -/
def Fields.complete : (fs : Fields) → fs.Partial → Except Mismatch fs.Data
  | .nil, () => .ok ()
  | .cons key presence shape rest, (cell, more) =>
    match cell.or (presence.absent? shape.Datum) with
    | some content => (rest.complete more).map (content, ·)
    | none => .error (.missing key)

/-- The number of fields. -/
def Fields.count : Fields → Nat
  | .nil => 0
  | .cons _ _ _ rest => rest.count + 1

/-- A shape in words, for an error about the kind of a value. -/
def Shape.describe : Shape → String
  | .text => "a string"
  | .flag => "a boolean"
  | .whole => "i64"
  | .list _ => "a sequence"
  | .record name _ => "struct " ++ name

/-- A record in words, for an error about the number of elements of a list. -/
def recordLength (name : String) (fields : Fields) : String :=
  "struct " ++ name ++ " with " ++ padded 1 fields.count ++ " elements"

/-- The greatest whole number that a field may hold, the greatest signed one of 64 bits. -/
def maxWhole : Int := 9223372036854775807

/-- The least whole number that a field may hold. -/
def minWhole : Int := -9223372036854775808

/-- The whole number that a number stands for, if it is one and is in range. -/
def wholeOf : Number → Except Mismatch Int
  | .whole n =>
    if minWhole ≤ n ∧ n ≤ maxWhole then .ok n else .error (.range n Shape.whole.describe)
  | .real x => .error (.kind (.real x) Shape.whole.describe)

end RailWatch.Payload

import RailWatch.Payload.Shape
import RailWatch.Json.Read
/-!
# RailWatch.Payload.Scan

Shapes read straight from a JSON text, without building a value first.

The reader stops at the first fault in the order of the text. A value of the wrong kind is reported
at its place, a missing field at the end of its object, and a key given twice where it comes the
second time, whatever is wrong further on. Keys that no field has are passed over with their
values.
-/

namespace RailWatch.Payload

open Json

/-- The fault of a value of the wrong kind, whose text starts here: just after a scalar, just
before a list or an object, or the fault within the scalar itself. -/
def wrongKind (wanted : String) (fuel : Nat) (s : List Char) : Fault :=
  match s with
  | [] => flawHere .endInValue []
  | c :: _ =>
    if c = '[' then mismatchHere (.kind .sequence wanted) s
    else if c = Char.ofNat 0x7B then mismatchHere (.kind .map wanted) s
    else
      match readScalar fuel s with
      | .ok (v, rest) => mismatchHere (.kind v.seen wanted) rest
      | .error e => e

/-- A text. -/
def scanText (fuel : Nat) : Scan String := fun s =>
  match skipSpace s with
  | [] => .error (wrongKind Shape.text.describe fuel [])
  | c :: r =>
    if c = '"' then readString fuel r
    else .error (wrongKind Shape.text.describe fuel (c :: r))

/-- A truth value. -/
def scanFlag (fuel : Nat) : Scan Bool := fun s =>
  match skipSpace s with
  | [] => .error (wrongKind Shape.flag.describe fuel [])
  | c :: r =>
    if c = 't' then (readWord ['r', 'u', 'e'] r).map (true, ·)
    else if c = 'f' then (readWord ['a', 'l', 's', 'e'] r).map (false, ·)
    else .error (wrongKind Shape.flag.describe fuel (c :: r))

/-- A number that has to be a whole one. -/
def scanNumber (negative : Bool) : Scan Int := fun s =>
  match readNumber negative s with
  | .error e => .error e
  | .ok (n, rest) =>
    match wholeOf n with
    | .ok i => .ok (i, rest)
    | .error m => .error (mismatchHere m rest)

/-- A whole number. -/
def scanWhole (fuel : Nat) : Scan Int := fun s =>
  match skipSpace s with
  | [] => .error (wrongKind Shape.whole.describe fuel [])
  | c :: r =>
    if c = '-' then scanNumber true r
    else if Text.isDigit c then scanNumber false (c :: r)
    else .error (wrongKind Shape.whole.describe fuel (c :: r))

/-- The elements of a list and its closing bracket; `done` holds, last one first, those read so
far. -/
def scanItems {α : Type} (item : Nat → Scan α) (done : List α) :
    Nat → Bool → Scan (List α)
  | 0, _, s => .error (flawHere .endInList s)
  | fuel + 1, first, s =>
    match nextItem first s with
    | .error e => .error e
    | .ok none => (closeList s).map (done.reverse, ·)
    | .ok (some s) =>
      match item fuel s with
      | .error e => .error e
      | .ok (x, s) => scanItems item (x :: done) fuel false s

/-- The content of a field, which may be null unless it is required. -/
def scanCell {α : Type} (item : Nat → Scan α) (fuel : Nat) :
    (p : Presence) → Scan (p.Cell α)
  | .required, s => item fuel s
  | .nullable, s | .optional, s =>
    match skipSpace s with
    | 'n' :: r => (readWord ['u', 'l', 'l'] r).map (none, ·)
    | s => (item fuel s).map fun (x, rest) => (some x, rest)

/-- What is left after a closing brace in front, if there is one. A key given twice is reported
there. -/
def pastBrace (s : List Char) : List Char :=
  match skipSpace s with
  | [] => []
  | c :: r => if c = Char.ofNat 0x7D then r else c :: r

/-- The members of an object and its closing brace. `offer` takes a key with what follows it: it
reads the member into the record if the record has such a field. -/
def scanMembers {α β : Type}
    (offer : String → Nat → α → List Char → Option (Except Fault (α × List Char)))
    (complete : α → Except Mismatch β) : Nat → Bool → α → Scan β
  | 0, _, _, s => .error (flawHere .endInObject s)
  | fuel + 1, first, record, s =>
    match nextKey first s with
    | .error e => .error e
    | .ok none =>
      match complete record with
      | .ok data => .ok (data, pastBrace s)
      | .error m => .error (mismatchHere m (pastBrace s))
    | .ok (some s) =>
      match readString fuel s with
      | .error e => .error e
      | .ok (key, s) =>
        match offer key fuel record s with
        | some (.error e) => .error e
        | some (.ok (record, s)) => scanMembers offer complete fuel false record s
        | none =>
          match readColon s >>= skipValue fuel with
          | .error e => .error e
          | .ok s => scanMembers offer complete fuel false record s

mutual

/-- Reads the data of a shape from the front of a text. -/
def Shape.scan : (shape : Shape) → Nat → Scan shape.Datum
  | .text, fuel, s => scanText fuel s
  | .flag, fuel, s => scanFlag fuel s
  | .whole, fuel, s => scanWhole fuel s
  | .list item, fuel, s =>
    match skipSpace s with
    | '[' :: r => scanItems item.scan [] fuel true r
    | s => .error (wrongKind (Shape.list item).describe fuel s)
  | .record name fields, fuel, s =>
    match skipSpace s with
    | [] => .error (wrongKind (Shape.record name fields).describe fuel [])
    | c :: r =>
      if c = '[' then fields.scanListed (recordLength name fields) 0 fuel true r
      else if c = Char.ofNat 0x7B then
        scanMembers fields.offer fields.complete fuel true fields.unseen r
      else .error (wrongKind (Shape.record name fields).describe fuel (c :: r))

/-- Reads the fields of a record from the elements of a list and its closing bracket. -/
def Fields.scanListed : (fs : Fields) → String → Nat → Nat → Bool → Scan fs.Data
  | .nil, _, _, _, _, s => (closeList s).map ((), ·)
  | .cons _ presence shape rest, wanted, index, fuel, first, s =>
    match nextItem first s with
    | .error e => .error e
    | .ok (some s) =>
      match scanCell shape.scan fuel presence s with
      | .error e => .error e
      | .ok (content, s) =>
        (rest.scanListed wanted (index + 1) fuel false s).map fun (more, s) => ((content, more), s)
    | .ok none =>
      match presence.unlisted? shape.Datum with
      | some content =>
        (rest.scanListed wanted (index + 1) fuel first s).map fun (more, s) => ((content, more), s)
      | none => .error (mismatchHere (.length index wanted) ((skipSpace s).drop 1))

/-- Reads the value of a member into a record, if the record has a field with its key. -/
def Fields.offer : (fs : Fields) → String → Nat → fs.Partial → List Char →
    Option (Except Fault (fs.Partial × List Char))
  | .nil, _, _, _, _ => none
  | .cons key presence shape rest, k, fuel, (cell, more), s =>
    if k = key then
      match cell with
      | some _ => some (.error (mismatchHere (.repeated key) (pastBrace s)))
      | none => some (
          match readColon s with
          | .error e => .error e
          | .ok s => (scanCell shape.scan fuel presence s).map fun (content, s) =>
              ((some content, more), s))
    else
      (rest.offer k fuel more s).map fun r => r.map fun (more, s) => ((cell, more), s)

end

/-- The data of a shape that a whole text writes. -/
def Shape.read (shape : Shape) (text : List Char) : Except Fault shape.Datum := do
  let (data, rest) ← shape.scan (fuelFor text) text
  closeText rest
  return data

end RailWatch.Payload

import RailWatch.Json.Scan
/-!
# RailWatch.Json.Read

JSON values, read from a text.

`Value.read` takes a whole text. It keeps the members of an object in the order of the text and
keeps repeated keys; it is `Value.members` that decides between them.
-/

namespace RailWatch.Json

/-- A scalar at the front of a text, if there is one: its value, or the fault in it. -/
def readScalar (fuel : Nat) (s : List Char) : Except Fault (Value × List Char) :=
  match s with
  | [] => .error (flawHere .endInValue [])
  | c :: r =>
    if c = 'n' then (readWord ['u', 'l', 'l'] r).map (.null, ·)
    else if c = 't' then (readWord ['r', 'u', 'e'] r).map (.flag true, ·)
    else if c = 'f' then (readWord ['a', 'l', 's', 'e'] r).map (.flag false, ·)
    else if c = '-' then (readNumber true r).map fun (n, r) => (.number n, r)
    else if Text.isDigit c then (readNumber false (c :: r)).map fun (n, r) => (.number n, r)
    else if c = '"' then (readString fuel r).map fun (t, r) => (.text t, r)
    else .error (flawAt .noValue (c :: r))

mutual

/-- A value at the front of a text. -/
def readValue : Nat → Scan Value
  | 0, s => .error (flawHere .endInValue s)
  | fuel + 1, s =>
    match skipSpace s with
    | c :: r =>
      if c = '[' then (readItems [] fuel true r).map fun (items, r) => (.list items, r)
      else if c = Char.ofNat 0x7B then
        (readMembers [] fuel true r).map fun (members, r) => (.object members, r)
      else readScalar fuel (c :: r)
    | [] => readScalar fuel []

/-- The elements of a list and its closing bracket; `done` holds, last one first, those read so
far. -/
def readItems (done : List Value) : Nat → Bool → Scan (List Value)
  | 0, _, s => .error (flawHere .endInList s)
  | fuel + 1, first, s =>
    match nextItem first s with
    | .error e => .error e
    | .ok none => (closeList s).map (done.reverse, ·)
    | .ok (some s) =>
      match readValue fuel s with
      | .error e => .error e
      | .ok (v, s) => readItems (v :: done) fuel false s

/-- The members of an object and its closing brace; `done` holds, last one first, those read so
far. -/
def readMembers (done : List (String × Value)) : Nat → Bool → Scan (List (String × Value))
  | 0, _, s => .error (flawHere .endInObject s)
  | fuel + 1, first, s =>
    match nextKey first s with
    | .error e => .error e
    | .ok none => .ok (done.reverse, (skipSpace s).drop 1)
    | .ok (some s) =>
      match readString fuel s with
      | .error e => .error e
      | .ok (key, s) =>
        match readColon s with
        | .error e => .error e
        | .ok s =>
          match readValue fuel s with
          | .error e => .error e
          | .ok (v, s) => readMembers ((key, v) :: done) fuel false s

end

/-- The value that a whole text writes. -/
def Value.read (text : List Char) : Except Fault Value := do
  let (v, rest) ← readValue (fuelFor text) text
  closeText rest
  return v

end RailWatch.Json

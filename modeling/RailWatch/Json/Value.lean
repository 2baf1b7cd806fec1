import RailWatch.Decimal.Shortest
/-!
# RailWatch.Json.Value

JSON values, as they are held after decoding.

Numbers are **whole** if they were written without fraction and exponent and fit into 64 bits,
signed or unsigned, and **real** otherwise. An object is a list of members; of two members with
one key the later one counts. `Value.members` is the way an object is looked at: each key once, in
the order of the keys.
-/

namespace RailWatch.Json

open Text

/-- A number. -/
inductive Number
  | whole (n : Int)
  | real (x : Binary64)
deriving DecidableEq

/-- A JSON value. -/
inductive Value
  | null
  | flag (b : Bool)
  | number (n : Number)
  | text (s : String)
  | list (items : List Value)
  | object (members : List (String × Value))

/-- The kind of a value, with the value itself where it has no parts. -/
inductive Seen
  | null
  | flag (b : Bool)
  | whole (n : Int)
  | real (x : Binary64)
  | text (s : String)
  | sequence
  | map
deriving DecidableEq

/-- The kind of a number. -/
def Number.seen : Number → Seen
  | whole n => .whole n
  | real x => .real x

namespace Value

/-- The kind of a value. -/
def seen : Value → Seen
  | null => .null
  | flag b => .flag b
  | number n => n.seen
  | text s => .text s
  | list _ => .sequence
  | object _ => .map

/-- Puts a member into a list of members that is ordered by key, over one with the same key. -/
def insertMember (key : String) (v : Value) : List (String × Value) → List (String × Value)
  | [] => [(key, v)]
  | (k, w) :: rest =>
    if key < k then (key, v) :: (k, w) :: rest
    else if key = k then (key, v) :: rest
    else (k, w) :: insertMember key v rest

/-- The members of an object with each key once, the last one given, ordered by key. -/
def orderMembers (members : List (String × Value)) : List (String × Value) :=
  members.foldl (fun acc m => insertMember m.1 m.2 acc) []

/-- The members of an object in the order in which they are looked at. -/
def members : Value → List (String × Value)
  | object ms => orderMembers ms
  | _ => []

/-- The member of an object with this key. -/
def get? (v : Value) (key : String) : Option Value :=
  (v.members.find? fun m => m.1 = key).map (·.2)

end Value
end RailWatch.Json

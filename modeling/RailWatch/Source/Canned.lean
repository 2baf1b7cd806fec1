import RailWatch.Fetch
/-!
# RailWatch.Source.Canned

Canned replies: a source of payloads that needs no network.

A **shelf** holds at most one reply for each train, in the order of their ids, and counts how often
it was asked. A train that has no reply does not run: its payload is the empty one.
-/

namespace RailWatch

/-- A reply that was put aside for a train. -/
inductive CannedReply
  /-- This body. -/
  | body (text : String)
  /-- This error status. -/
  | status (code : Nat)
  /-- No reply at all. -/
  | silence
deriving DecidableEq

/-- The payload of a train that does not run. -/
def emptyPayload : String := "[]"

namespace CannedReply

/-- The reply for a train that has none. -/
def absent : CannedReply := .body emptyPayload

/-- How a fetch ends that gets this reply. -/
def ending : CannedReply → FetchEnding
  | body text => .replied (.ok text)
  | status code => .replied (.error (.status code ("mock status " ++ Text.padded 1 code)))
  | silence => .silent

end CannedReply

/-- Canned replies by train. -/
structure Shelf where
  replies : List (String × CannedReply)
  /-- How many fetches were served. -/
  calls : Nat
deriving DecidableEq

namespace Shelf

/-- A shelf without a reply. -/
def empty : Shelf := ⟨[], 0⟩

/-- Puts a reply in its place; it replaces the one that the train had. -/
def insertReply (id : String) (reply : CannedReply) :
    List (String × CannedReply) → List (String × CannedReply)
  | [] => [(id, reply)]
  | entry :: rest =>
    if id = entry.1 then (id, reply) :: rest
    else if id < entry.1 then (id, reply) :: entry :: rest
    else entry :: insertReply id reply rest

/-- Sets the reply for a train. -/
def put (s : Shelf) (id : String) (reply : CannedReply) : Shelf :=
  { s with replies := insertReply id reply s.replies }

/-- The reply that was put aside for a train. -/
def get? (s : Shelf) (id : String) : Option CannedReply :=
  s.replies.lookup id

/-- The trains that have a reply, in the order of their ids. -/
def ids (s : Shelf) : List String :=
  s.replies.map (·.1)

/-- How a fetch of a train ends. -/
def ending (s : Shelf) (id : String) : FetchEnding :=
  ((s.get? id).getD .absent).ending

/-- Serves one fetch. -/
def serve (s : Shelf) (id : String) : Shelf × FetchEnding :=
  ({ s with calls := s.calls + 1 }, s.ending id)

@[simp] theorem ids_empty : empty.ids = [] := rfl

/-- What was put there is found, whatever else is there. -/
theorem get?_put_self (s : Shelf) (id : String) (reply : CannedReply) :
    (s.put id reply).get? id = some reply := by
  obtain ⟨replies, calls⟩ := s
  simp only [put, get?]
  induction replies with
  | nil => simp [insertReply]
  | cons entry rest ih =>
    obtain ⟨key, old⟩ := entry
    simp only [insertReply]
    split
    · simp
    · split
      · simp
      · rename_i h _
        simp [List.lookup_cons, beq_eq_false_iff_ne.mpr h, ih]

end Shelf
end RailWatch

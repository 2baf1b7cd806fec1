import RailWatch.Tracker
/-!
# RailWatch.Tracker.Feed

What a subscriber sees who does not read in time.

Updates are kept for every subscriber until they are read, but only the latest of them. A
subscriber who comes back late first learns how many updates were lost and then reads the rest.
-/

namespace RailWatch

/-- The number of unread updates that are kept for a subscriber. -/
def feedCapacity : Nat := 16

/-- What a subscriber reads at last. -/
structure Backlog where
  /-- The number of updates that were lost. -/
  lost : Nat
  /-- The updates that were kept, oldest first. -/
  kept : List Update

/-- The backlog of a subscriber to whom these updates were sent and who read none of them. -/
def Backlog.ofUnread (updates : List Update) : Backlog :=
  let lost := updates.length - feedCapacity
  ⟨lost, updates.drop lost⟩

/-- The backlog of a subscriber who came when `seen` of the updates had been published, and none
if there were never so many. -/
def Backlog.since (seen : Nat) (updates : List Update) : Option Backlog :=
  if seen ≤ updates.length then some (.ofUnread (updates.drop seen)) else none

/-- At most the capacity is kept. -/
theorem Backlog.length_kept_le (updates : List Update) :
    (Backlog.ofUnread updates).kept.length ≤ feedCapacity := by
  simp only [ofUnread, List.length_drop]
  omega

/-- Every update is either lost or kept. -/
theorem Backlog.lost_add_kept (updates : List Update) :
    (Backlog.ofUnread updates).lost + (Backlog.ofUnread updates).kept.length =
      updates.length := by
  simp only [ofUnread, List.length_drop]
  omega

end RailWatch

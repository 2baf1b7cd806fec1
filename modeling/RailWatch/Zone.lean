import RailWatch.Instant
/-!
# RailWatch.Zone

A time zone: which **offset** from universal time holds at each instant.

A zone is an initial offset and a list of switches. `Zone.reading` shows an instant on the wall,
`Zone.earliest?` goes the other way. A wall clock shows the reading with `s` seconds exactly at the
instants `s - o` at which the offset is `o`, so it is enough to try the offsets that the zone uses;
the greatest offset gives the earliest instant. Nothing is found for a reading that was skipped
when clocks were put forward.
-/

namespace RailWatch

/-- How far the clocks of a place are ahead of universal time, and the short name of that time. -/
structure Offset where
  seconds : Int
  name : String
deriving DecidableEq

/-- From a second on, another offset holds. -/
structure Switch where
  start : Int
  offset : Offset
deriving DecidableEq

/-- The offsets of a place through time; switches are listed in the order of time. -/
structure Zone where
  initial : Offset
  switches : List Switch

namespace Zone

/-- The offset that holds at a second, when `current` holds before the first of the switches. -/
def offsetAfter (current : Offset) : List Switch → Int → Offset
  | [], _ => current
  | s :: rest, t => if t < s.start then current else offsetAfter s.offset rest t

/-- The offset that holds at a second of universal time. -/
def offsetAt (z : Zone) (t : Int) : Offset :=
  offsetAfter z.initial z.switches t

/-- What a clock in the zone shows at an instant. -/
def reading (z : Zone) (i : Instant) : Reading :=
  Reading.ofSeconds (i.seconds + (z.offsetAt i.seconds).seconds) i.nanos

/-- The instant that shows the reading under the first of the candidate offsets that holds there.
With all offsets of the zone as candidates, greatest first, it is the earliest one that does. -/
def earliest? (z : Zone) (candidates : List Int) (r : Reading) : Option Instant :=
  (candidates.find? fun o => (z.offsetAt (r.seconds - o)).seconds = o).map fun o =>
    ⟨r.seconds - o, r.clock.nanos⟩

@[simp] theorem offsetAfter_nil (current : Offset) (t : Int) :
    offsetAfter current [] t = current := rfl

@[simp] theorem offsetAfter_cons (current : Offset) (s : Switch) (rest : List Switch) (t : Int) :
    offsetAfter current (s :: rest) t =
      if t < s.start then current else offsetAfter s.offset rest t := rfl

/-- The offset that holds is the initial one or that of a switch. -/
theorem offsetAfter_mem (current : Offset) (switches : List Switch) (t : Int) :
    offsetAfter current switches t ∈ current :: switches.map (·.offset) := by
  induction switches generalizing current with
  | nil => simp
  | cons s rest ih =>
    rw [offsetAfter_cons]
    split
    · simp
    · exact List.mem_cons_of_mem _ (ih s.offset)

@[simp] theorem seconds_reading (z : Zone) (i : Instant) :
    (z.reading i).seconds = i.seconds + (z.offsetAt i.seconds).seconds :=
  Reading.seconds_ofSeconds _ _

@[simp] theorem nanos_reading (z : Zone) (i : Instant) : (z.reading i).clock.nanos = i.nanos := rfl

/-- An instant that was found does show the reading. -/
theorem reading_of_earliest? {z : Zone} {candidates : List Int} {r : Reading} {i : Instant}
    (h : z.earliest? candidates r = some i) : z.reading i = r := by
  simp only [earliest?, Option.map_eq_some_iff] at h
  obtain ⟨o, ho, rfl⟩ := h
  have hs := List.find?_some ho
  simp only [decide_eq_true_eq] at hs
  simp only [reading, hs, Int.sub_add_cancel, Reading.ofSeconds_seconds]

end Zone
end RailWatch

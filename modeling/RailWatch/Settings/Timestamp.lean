import RailWatch.Instant
import RailWatch.Text.Utf8
/-!
# RailWatch.Settings.Timestamp

Instants in settings, written as `2024-03-15T09:00:00+01:00`.

A text that is too short for date and time is refused before anything else. Then the parts are
read from left to right and the first thing wrong decides: the date is looked up as soon as it is
read, the time of day once its fraction is, the minutes of the offset once they are, and the size
of the offset in the end, after it is known that nothing follows. The fraction may have any
number of digits, of which nine count. A `Z` stands for universal time. A blank may stand for the `T`
between date and time of day, and the true minus sign for the hyphen of the offset.
-/

namespace RailWatch

open Text

/-- Why a text is no timestamp. -/
inductive TimestampError
  /-- The text ends too early. -/
  | ended
  /-- Another character was expected. -/
  | unexpected
  /-- A number is out of range. -/
  | range
  /-- Something follows the timestamp. -/
  | trailing
deriving DecidableEq

/-- The reason in words. -/
def TimestampError.message : TimestampError → String
  | ended => "premature end of input"
  | unexpected => "input contains invalid characters"
  | range => "input is out of range"
  | trailing => "trailing input"

namespace Timestamp

/-- A number of exactly `width` digits. A text with fewer octets than that is too short, whatever
they are. -/
def number (width : Nat) (s : List Char) : Except TimestampError (Nat × List Char) :=
  if Utf8.byteLength s < width then .error .ended
  else if (s.take width).all isDigit then .ok (natOfDigits (s.take width), s.drop width)
  else .error .unexpected

/-- One of these characters. -/
def oneOf (allowed : List Char) (s : List Char) : Except TimestampError (List Char) :=
  match s with
  | [] => .error .ended
  | c :: rest => if allowed.contains c then .ok rest else .error .unexpected

/-- The digits of a fraction as nanoseconds. -/
def nanosOfFraction (ds : List Char) : Nat :=
  let kept := ds.take 9
  natOfDigits kept * Nat.pow 10 (9 - kept.length)

/-- The fraction of the second, if there is a point for one. -/
def fraction (s : List Char) : Except TimestampError (Nat × List Char) :=
  match s with
  | '.' :: [] => .error .ended
  | '.' :: rest =>
    let (ds, rest) := spanDigits rest
    if ds.isEmpty then .error .unexpected else .ok (nanosOfFraction ds, rest)
  | s => .ok (0, s)

/-- The true minus sign. -/
def minusSign : Char := Char.ofNat 0x2212

/-- The greatest offset from universal time in seconds, a minute short of a day. -/
def maxOffset : Nat := (23 * 60 + 59) * 60

/-- Hours and minutes of an offset, in seconds. -/
def offsetSize (s : List Char) : Except TimestampError (Nat × List Char) := do
  let (hour, s) ← number 2 s
  let s ← oneOf [':'] s
  let (minute, s) ← number 2 s
  if minute < 60 then .ok (hour * 3600 + minute * 60, s) else .error .range

/-- The offset from universal time in seconds. -/
def offset (s : List Char) : Except TimestampError (Int × List Char) :=
  match s with
  | [] => .error .ended
  | c :: rest =>
    if c = 'Z' || c = 'z' then .ok (0, rest)
    else if c = '+' || c = '-' || c = minusSign then do
      let (size, rest) ← offsetSize rest
      return (if c = '+' then (size : Int) else -(size : Int), rest)
    else .error .unexpected

/-- The least number of octets that date and time take. -/
def minLength : Nat := 19

/-- A date as year, month and day of month, with hyphens between them. -/
def date (s : List Char) : Except TimestampError (Date × List Char) := do
  let (year, s) ← number 4 s
  let s ← oneOf ['-'] s
  let (month, s) ← number 2 s
  let s ← oneOf ['-'] s
  let (day, s) ← number 2 s
  match Date.ofCivil? year month day with
  | some date => .ok (date, s)
  | none => .error .range

/-- A clock that shows a fraction of its second. -/
def withNanos (clock : Clock) (nanos : Nat) : Clock :=
  { clock with nanos := clock.nanos + nanos }

/-- A time of day as hour, minute and second, with colons between them. -/
def clock (s : List Char) : Except TimestampError (Clock × List Char) := do
  let (hour, s) ← number 2 s
  let s ← oneOf [':'] s
  let (minute, s) ← number 2 s
  let s ← oneOf [':'] s
  let (second, s) ← number 2 s
  let (nanos, s) ← fraction s
  match Clock.ofHms? hour minute second with
  | some clock => .ok (withNanos clock nanos, s)
  | none => .error .range

/-- The instant of a date and a time of day at an offset from universal time. -/
def instant (date : Date) (clock : Clock) (offset : Int) : Instant :=
  ⟨(⟨date, clock⟩ : Reading).seconds - offset, clock.nanos⟩

/-- The instant that a timestamp writes. -/
def read (s : List Char) : Except TimestampError Instant :=
  if Utf8.byteLength s < minLength then .error .ended
  else do
    let (date, s) ← date s
    let s ← oneOf ['T', 't', ' '] s
    let (clock, s) ← clock s
    let (offset, s) ← offset s
    if !s.isEmpty then .error .trailing
    else if maxOffset < offset.natAbs then .error .range
    else return instant date clock offset

example : read "2024-03-15T10:00:00+01:00".toList = .ok ⟨1710493200, 0⟩ := by cbv
example : read "2024-03-15 09:00:60.5Z".toList = .ok ⟨1710493259, 1500000000⟩ := rfl
example : read "2023-02-29T09:00:00Z".toList = .error .range := by cbv
example : read "2024-03-15T09:00:00-99:59".toList = .error .range := by cbv
example : read "2024-03-15T09:00:00-99:59 ".toList = .error .trailing := by cbv
example : read "10:00".toList = .error .ended := by cbv

end Timestamp
end RailWatch

import RailWatch.Text.Digits
/-!
# RailWatch.Url.Domain.Punycode

Labels of domain names in ASCII.

A label is written as its characters of ASCII, a hyphen, and then numbers that say which other
characters to insert and where. The numbers have digits of base 36, least digit first, and how many
digits a number has shows in the digits themselves: a digit below a **threshold** is the last one.
The thresholds adapt to the numbers before.
-/

namespace RailWatch.Url.Domain.Punycode

open Text

/-- A digit of base 36: letters first. -/
def digitChar (d : Nat) : Char :=
  if d < 26 then Char.ofNat (0x61 + d) else Char.ofNat (0x30 + (d - 26))

/-- The value of a digit. -/
def digitValue? (c : Char) : Option Nat :=
  if 'a' ≤ c && c ≤ 'z' then some (c.toNat - 0x61)
  else if 'A' ≤ c && c ≤ 'Z' then some (c.toNat - 0x41)
  else if isDigit c then some (c.toNat - 0x30 + 26)
  else none

/-- The threshold of a digit, by its place in steps of 36 and the bias of the number. -/
def threshold (place bias : Nat) : Nat :=
  if place ≤ bias then 1 else if bias + 26 ≤ place then 26 else place - bias

theorem threshold_pos (place bias : Nat) : 0 < threshold place bias := by
  unfold threshold
  split
  · omega
  · split <;> omega

/-- The place of the first digit. -/
def firstPlace : Nat := 36

/-- The bias of the first number. -/
def firstBias : Nat := 72

/-- The first code point that is not written as it is. -/
def firstCode : Nat := 128

/-- The bias that a number suggests, counted from `bias` on. -/
def biasOf (bias n : Nat) : Nat :=
  if 455 < n then biasOf (bias + 36) (n / 35) else bias + 36 * n / (n + 38)
termination_by n

/-- The bias behind a number, when there are so many characters then. -/
def adapt (n count : Nat) (isFirst : Bool) : Nat :=
  let n := if isFirst then n / 700 else n / 2
  biasOf 0 (n + n / count)

/-- The digits of a number from a place on. -/
def digits (bias place n : Nat) : List Char :=
  if n < threshold place bias then [digitChar n]
  else
    let base := 36 - threshold place bias
    let n := n - threshold place bias
    digitChar (threshold place bias + n % base) :: digits bias (place + 36) (n / base)
termination_by n
decreasing_by
  have := threshold_pos place bias
  exact Nat.lt_of_le_of_lt (Nat.div_le_self _ _) (by omega)

/-! ## Writing -/

/-- A label that is being written. -/
structure Draft where
  /-- The digits so far. -/
  written : List Char
  /-- The number that comes next. -/
  next : Nat
  bias : Nat
  /-- The number of characters that are written. -/
  count : Nat
  isFirst : Bool

/-- One character of the label, when those below the code point `n` are written. -/
def Draft.add (n : Nat) (d : Draft) (c : Char) : Draft :=
  if c.toNat < n then { d with next := d.next + 1 }
  else if c.toNat = n then
    ⟨d.written ++ digits d.bias firstPlace d.next, 0, adapt d.next (d.count + 1) d.isFirst,
      d.count + 1, false⟩
  else d

/-- Writes all characters of some code points, in this order, when those below `n` are written. -/
def Draft.addAll (label : List Char) (n : Nat) (d : Draft) : List Nat → Draft
  | [] => d
  | code :: codes =>
    let d := { d with next := d.next + (code - n) * (d.count + 1) }
    let d := label.foldl (Draft.add code) d
    addAll label (code + 1) { d with next := d.next + 1 } codes

/-- A character of ASCII. -/
def isAscii (c : Char) : Bool := c.toNat < firstCode

/-- The label in ASCII. -/
def encode (label : List Char) : List Char :=
  let plain := label.filter isAscii
  let codes := ((label.filter fun c => !isAscii c).map Char.toNat).mergeSort.eraseDups
  let d := Draft.addAll label firstCode ⟨[], 0, firstBias, plain.length, true⟩ codes
  (if plain.isEmpty then [] else plain ++ ['-']) ++ d.written

/-! ## Reading -/

/-- A label that is being read. -/
structure Reading where
  label : List Char
  /-- The place of the last character that was inserted, and behind it the number so far. -/
  sum : Nat
  /-- What the sum was before the number. -/
  start : Nat
  /-- What the next digit counts. -/
  weight : Nat
  /-- The place of the next digit. -/
  place : Nat
  bias : Nat
  /-- The code point of the last character that was inserted. -/
  code : Nat

/-- What no sum and no weight reaches. -/
def limit : Nat := Nat.pow 2 32

/-- The character of a code point that is one. -/
def charOf? (n : Nat) : Option Char :=
  if h : n.isValidChar then some (Char.ofNatAux n h) else none

/-- Inserts the character that a number stands for, behind its last digit. -/
def Reading.insert? (r : Reading) : Option Reading := do
  let count := r.label.length + 1
  let code := r.code + r.sum / count
  let place := r.sum % count
  let c ← charOf? code
  return ⟨r.label.insertIdx place c, place + 1, place + 1, 1, firstPlace,
    adapt (r.sum - r.start) count (r.start = 0), code⟩

/-- One more digit. -/
def Reading.add? (r : Reading) (c : Char) : Option Reading := do
  let digit ← digitValue? c
  let t := threshold r.place r.bias
  let r := { r with sum := r.sum + digit * r.weight }
  if limit ≤ r.sum then none
  else if digit < t then r.insert?
  else
    let weight := r.weight * (36 - t)
    if limit ≤ weight then none else return { r with weight, place := r.place + 36 }

/-- A label as its characters of ASCII and its digits. A hyphen at the front is taken for a
digit. -/
def split (s : List Char) : List Char × List Char :=
  let digits := (s.reverse.takeWhile (· ≠ '-')).reverse
  let plain := s.take (s.length - digits.length - 1)
  if plain.isEmpty then ([], s) else (plain, digits)

/-- The label that a text in ASCII writes. -/
def decode? (s : List Char) : Option (List Char) := do
  let (plain, digits) := split s
  let r ← digits.foldlM Reading.add? ⟨plain, 0, 0, 1, firstPlace, firstBias, firstCode⟩
  if r.place = firstPlace then return r.label else none

example : encode "bücher".toList = "bcher-kva".toList := by decide +kernel
example : decode? "bcher-kva".toList = some "bücher".toList := by decide +kernel
example : encode "ü".toList = "tda".toList := by decide +kernel
example : decode? "bcher-kv".toList = none := by decide +kernel

end RailWatch.Url.Domain.Punycode

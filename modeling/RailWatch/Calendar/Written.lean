import RailWatch.Calendar.Clock
import RailWatch.Text.Blank
/-!
# RailWatch.Calendar.Written

Dates and times of day as a railway writes them: `YYYYMMDD` and `HH:MM:SS`.

The reader is more lenient than the form suggests. White space may stand before each number. The
month, the day and the parts of a time may have one digit, the year up to four, or any number of
them after a sign. Each number takes as many digits as it may, so `2024031` is the first of March.
Nothing may follow the last number, and the colons of a time follow the numbers directly.
-/

namespace RailWatch

open Text

namespace Written

/-- A number of at least one and at most `width` digits, after white space. -/
def readNumber (width : Nat) (s : List Char) : Option (Nat × List Char) :=
  let s := skipBlank s
  let ds := (s.take width).takeWhile isDigit
  if ds.isEmpty then none else some (natOfDigits ds, s.drop ds.length)

/-- A run of digits of any length. -/
def readDigits (s : List Char) : Option (Nat × List Char) :=
  let (ds, rest) := spanDigits s
  if ds.isEmpty then none else some (natOfDigits ds, rest)

/-- A year after white space: up to four digits, or a sign and any number of them. -/
def readYear (s : List Char) : Option (Int × List Char) :=
  match skipBlank s with
  | '+' :: rest => (readDigits rest).map fun (n, rest) => ((n : Int), rest)
  | '-' :: rest => (readDigits rest).map fun (n, rest) => (-(n : Int), rest)
  | rest => (readNumber 4 rest).map fun (n, rest) => ((n : Int), rest)

/-- A colon. -/
def readColon : List Char → Option (List Char)
  | ':' :: rest => some rest
  | _ => none

end Written

open Written

namespace Date

/-- The date that a text of year, month and day writes. -/
def read (s : List Char) : Option Date := do
  let (year, s) ← readYear s
  let (month, s) ← readNumber 2 s
  let (day, s) ← readNumber 2 s
  if s.isEmpty then ofCivil? year month day else none

/-- A date as `YYYYMMDD`, for the years that have four digits. -/
def compactText (d : Date) : String :=
  let (year, month, day) := d.civil
  padded 4 year.toNat ++ padded 2 month ++ padded 2 day

end Date

/-- The time of day that a text of hour, minute and second writes. -/
def Clock.read (s : List Char) : Option Clock := do
  let (hour, s) ← readNumber 2 s
  let s ← readColon s
  let (minute, s) ← readNumber 2 s
  let s ← readColon s
  let (second, s) ← readNumber 2 s
  if s.isEmpty then ofHms? hour minute second else none

example : Date.read "20240315".toList = some ⟨19797⟩ := by decide
example : (Date.read "2024 3 5".toList).map Date.civil = some (2024, 3, 5) := by decide
example : (Date.read "2024031".toList).map Date.civil = some (2024, 3, 1) := by decide
example : Date.read "+20240315".toList = none := by decide
example : (Clock.read "8:5:60".toList).map Clock.second = some 29159 := by decide
example : Clock.read "08:10".toList = none := by decide

end RailWatch

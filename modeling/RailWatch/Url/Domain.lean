import RailWatch.Text.NormalForm
import RailWatch.Url.Address
import RailWatch.Url.Domain.Direction
import RailWatch.Url.Domain.Folding
import RailWatch.Url.Domain.Joiner
import RailWatch.Url.Domain.Punycode
/-!
# RailWatch.Url.Domain

Domain names in ASCII.

A name is folded and brought into its normal form, and then each of its labels between dots is
looked at by itself. A label that is written in ASCII with the prefix for that is read, and has to
be in its usual form already. Labels that are not in ASCII are written so in the end.
-/

namespace RailWatch.Url.Domain

open Text

/-- A label, as it was meant and as it is written in the end. -/
structure Label where
  plain : List Char
  written : List Char

/-- What stands before a label that is written in ASCII. -/
def asciiPrefix : List Char := "xn--".toList

/-- The greatest length of a label that is read, without the prefix. -/
def maxRead : Nat := 2000

/-- The greatest length of a label that is written. -/
def maxWritten : Nat := 1000

/-- A text in its usual form, if it has one. -/
def usualForm? (s : List Char) : Option (List Char) :=
  (s.mapM fold?).map fun parts => NormalForm.compose parts.flatten

/-- Whether the characters and the joiners of a label that is not in ASCII stand where they may. -/
def isWellFormed (s : List Char) : Bool :=
  !s.head?.any isMark && joinersFit [] s

/-- A label behind the prefix. -/
def readLabel? (s : List Char) : Option (List Char) := do
  if maxRead < s.length || !s.all Punycode.isAscii then none
  else
    let plain ← Punycode.decode? s
    if plain.all Punycode.isAscii || (← usualForm? plain) ≠ plain || !isWellFormed plain then none
    else return plain

/-- A label of a name in its usual form. -/
def label? (s : List Char) : Option Label :=
  if asciiPrefix.isPrefixOf s then
    (readLabel? (s.drop asciiPrefix.length)).map fun plain => ⟨plain, s⟩
  else if s.all Punycode.isAscii then some ⟨s, s⟩
  else if maxWritten < s.length || !isWellFormed s then none
  else some ⟨s, asciiPrefix ++ Punycode.encode s⟩

/-- Whether labels may stand in one name, as far as their directions go. -/
def directionsAgree (labels : List (List Char)) : Bool :=
  let directions := labels.map fun l => l.map Direction.ofChar
  !directions.any (·.any Direction.isRightward) || directions.all Direction.isConsistent

/-- A name in ASCII, if it is one without forbidden characters. -/
def ascii? (isForbidden : Char → Bool) (s : List Char) : Option (List Char) := do
  let labels ← (Address.splitAt (· = '.') (← usualForm? s)).mapM label?
  if labels.any (·.plain.any fun c => c = '.' || isForbidden c) ||
      !directionsAgree (labels.map (·.plain)) then none
  else return ['.'].intercalate (labels.map (·.written))

/-- No character is forbidden. -/
def allowsAll : Char → Bool := fun _ => false

example : ascii? allowsAll "É.A".toList = some "xn--9ca.a".toList := by decide +kernel
example : ascii? allowsAll "xn--".toList = none := by decide +kernel

end RailWatch.Url.Domain

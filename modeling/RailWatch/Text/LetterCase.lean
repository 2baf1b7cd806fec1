import RailWatch.Text.CaseTable
/-!
# RailWatch.Text.LetterCase

Lower case, upper case, and the form in which the name of a station is shown: the first letter in
upper case and the rest in lower case.

A form may have several characters. The lower case form of a capital sigma depends on where it
stands: at the end of a word it is the final sigma.
-/

namespace RailWatch.Text

/-- The form of a character that a table of runs and one of special forms give; the character itself
if neither has it. -/
def mapCase (special : List (Nat × List Nat)) (runs : List CaseRange) (c : Char) : List Char :=
  match special.find? fun e => e.1 = c.toNat with
  | some e => e.2.map Char.ofNat
  | none =>
    match runs.find? fun r => r.holds c.toNat with
    | some r => [Char.ofNat (c.toNat + r.delta).toNat]
    | none => [c]

/-- The lower case form of a character by itself. -/
def lowerChar (c : Char) : List Char := mapCase lowerSpecial lowerRanges c

/-- The upper case form of a character. -/
def upperChar (c : Char) : List Char := mapCase upperSpecial upperRanges c

/-- A character that has case. -/
def isCased (c : Char) : Bool := inRanges casedRanges c.toNat

/-- A character that does not separate the parts of a word. -/
def isCaseIgnorable (c : Char) : Bool := inRanges caseIgnorableRanges c.toNat

/-- Whether the next character, the ignorable ones left out, has case. -/
def meetsCased (s : List Char) : Bool :=
  match s.dropWhile isCaseIgnorable with
  | c :: _ => isCased c
  | [] => false

/-- The capital sigma. -/
def capitalSigma : Char := Char.ofNat 0x3A3

/-- The lower case form of a capital sigma between two texts, the one before it last character
first: the final sigma if a letter stands before it and none after it. -/
def lowerSigma (before after : List Char) : Char :=
  if meetsCased before && !meetsCased after then Char.ofNat 0x3C2 else Char.ofNat 0x3C3

/-- The lower case form of a text that follows another one, which is given last character first. -/
def lowerAfter (before : List Char) : List Char → List Char
  | [] => []
  | c :: after =>
    (if c = capitalSigma then [lowerSigma before after] else lowerChar c) ++
      lowerAfter (c :: before) after

/-- The lower case form of a text. -/
def lower (s : List Char) : List Char := lowerAfter [] s

/-- A text with its first character in upper case. -/
def upperFirst : List Char → List Char
  | [] => []
  | c :: rest => upperChar c ++ rest

/-- A name as it is shown: lower case but for its first character. -/
def capitalize (s : String) : String :=
  String.ofList (upperFirst (lower s.toList))

example : upperFirst (lower "MILANO CENTRALE".toList) = "Milano centrale".toList := by
  decide +kernel

example : lower "ΟΔΟΣ Σ".toList = "οδος σ".toList := by decide +kernel

end RailWatch.Text

import RailWatch.Text.Charset.Big5.Cells
import RailWatch.Text.Charset.OctetReader
/-!
# RailWatch.Text.Charset.Big5

The charset Big5 of Taiwan and Hong Kong. Characters take one or two octets, and four pairs of
octets stand for a letter with an accent that has no code point of its own.
-/

namespace RailWatch.Text.Charset.Big5

/-- The second of the octets that stand for a letter and an accent, and the two characters; the
first octet is 88. -/
def accented : List (UInt8 × List Char) := [
    (0x62, ['Ê', '\u0304']), (0x64, ['Ê', '\u030c']), (0xA3, ['ê', '\u0304']),
    (0xA5, ['ê', '\u030c'])]

/-- The number of the cell of a pair of octets. -/
def cell? (lead b : UInt8) : Option Nat :=
  if 0x40 ≤ b && b ≤ 0x7E then some ((lead.toNat - 0x81) * rowSize + b.toNat - 0x40)
  else if 0xA1 ≤ b && b ≤ 0xFE then some ((lead.toNat - 0x81) * rowSize + b.toNat - 0x62)
  else none

/-- The characters of a pair of octets. -/
def pair? (lead b : UInt8) : Option (List Char) :=
  match (cell? lead b).bind cells.get? with
  | some c => some [c]
  | none => if lead = 0x88 then accented.lookup b else none

/-- The reader of the charset. -/
def reader : OctetReader (Option UInt8) :=
  pairReader asciiChar? (fun b => 0x81 ≤ b && b ≤ 0xFE) pair?

example : reader.read [0xA4, 0x21] = [Utf8.replacement, '!'] := by decide +kernel

end RailWatch.Text.Charset.Big5

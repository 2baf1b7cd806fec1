import RailWatch.Text.Charset.EucKr.Cells
import RailWatch.Text.Charset.OctetReader
/-!
# RailWatch.Text.Charset.EucKr

The charset of Korea, with all syllables of Hangul. Characters take one or two octets.
-/

namespace RailWatch.Text.Charset.EucKr

/-- The characters of a pair of octets. -/
def pair? (lead b : UInt8) : Option (List Char) :=
  if 0x41 ≤ b && b ≤ 0xFE then
    (cells.get? ((lead.toNat - 0x81) * rowSize + b.toNat - 0x41)).map ([·])
  else none

/-- The reader of the charset. -/
def reader : OctetReader (Option UInt8) :=
  pairReader asciiChar? (fun b => 0x81 ≤ b && b ≤ 0xFE) pair?

example : reader.read [0x41, 0xB0, 0x21] = ['A', Utf8.replacement, '!'] := by decide +kernel

end RailWatch.Text.Charset.EucKr

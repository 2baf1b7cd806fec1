import RailWatch.Text.Digits
import RailWatch.Text.Hidden
import RailWatch.Text.Utf8
/-!
# RailWatch.Text.Quoted

Texts in quotation marks, for messages.

Inside the marks a backslash, a quotation mark, the usual control characters and the hidden
characters are written as escapes. `quoted` is for plain texts. In the names of files, which
`quotedName` is for, octets that are no text are written in base sixteen.
-/

namespace RailWatch.Text

/-- The digits of `n` in base sixteen, in lower case. -/
def hexDigits (n : Nat) : List Char :=
  Nat.toDigits 16 n

/-- An escape by code point. -/
def hexEscape (c : Char) : List Char :=
  ['\\', 'u', Char.ofNat 0x7B] ++ hexDigits c.toNat ++ [Char.ofNat 0x7D]

/-- A character as it stands between quotation marks. -/
def escaped (c : Char) : List Char :=
  if c = Char.ofNat 0 then ['\\', '0']
  else if c = '\t' then ['\\', 't']
  else if c = '\r' then ['\\', 'r']
  else if c = '\n' then ['\\', 'n']
  else if c = '\\' then ['\\', '\\']
  else if c = '"' then ['\\', '"']
  else if isHidden c then hexEscape c
  else [c]

/-- A piece of a file name as it stands between quotation marks. -/
def escapedPiece : Utf8.Piece → List Char
  | .char c => escaped c
  | .stray octets =>
    octets.flatMap fun b =>
      let digits := Nat.toDigits 16 (b.toNat / 16) ++ Nat.toDigits 16 (b.toNat % 16)
      ['\\', 'x'] ++ digits.map Char.toUpper

/-- The name of a file in quotation marks. -/
def quotedName (octets : List UInt8) : String :=
  String.ofList (['"'] ++ (Utf8.pieces octets).flatMap escapedPiece ++ ['"'])

/-- A text in quotation marks. -/
def quoted (s : String) : String :=
  String.ofList (['"'] ++ s.toList.flatMap escaped ++ ['"'])

end RailWatch.Text

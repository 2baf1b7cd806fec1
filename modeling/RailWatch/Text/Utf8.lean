/-!
# RailWatch.Text.Utf8

Octets as text in UTF-8.

Octets fall into **pieces**: characters, and runs of octets that belong to none. A run ends at the
first octet that cannot continue it, and that octet is tried again as the start of a piece. So
each beginning of a character that breaks off is one run, and every other stray octet is one by
itself. A text is decoded strictly, when all pieces have to be characters, or leniently, when each
run counts as one replacement character.
-/

namespace RailWatch.Text.Utf8

/-- What octets are made of. -/
inductive Piece
  /-- The octets of one character. -/
  | char (c : Char)
  /-- Octets that are no part of a character. -/
  | stray (octets : List UInt8)
deriving DecidableEq

/-- A character of which some octets are still to come. -/
structure Unfinished where
  /-- The number of octets to come after the next one. -/
  afterNext : Nat
  /-- The least value that the next octet may have. -/
  low : UInt8
  /-- The greatest value that the next octet may have. -/
  high : UInt8
  /-- The bits of the code point so far. -/
  bits : Nat
  /-- The octets so far. -/
  seen : List UInt8

/-- What the first octet of a piece starts, if it may start a character of several octets. The range
of the second octet leaves out overlong forms, surrogates and what is beyond the last character. -/
def unfinished? (b : UInt8) : Option Unfinished :=
  if 0xC2 ≤ b && b ≤ 0xDF then some ⟨0, 0x80, 0xBF, b.toNat % 32, [b]⟩
  else if 0xE0 ≤ b && b ≤ 0xEF then
    some ⟨1, if b = 0xE0 then 0xA0 else 0x80, if b = 0xED then 0x9F else 0xBF, b.toNat % 16, [b]⟩
  else if 0xF0 ≤ b && b ≤ 0xF4 then
    some ⟨2, if b = 0xF0 then 0x90 else 0x80, if b = 0xF4 then 0x8F else 0xBF, b.toNat % 8, [b]⟩
  else none

/-- The first octet of a piece: a piece by itself, or the beginning of one. -/
def begin? (b : UInt8) : List Piece × Option Unfinished :=
  if b < 0x80 then ([.char (Char.ofNat b.toNat)], none)
  else
    match unfinished? b with
    | some u => ([], some u)
    | none => ([.stray [b]], none)

/-- The pieces of the octets that follow an unfinished character, or nothing. -/
def piecesFrom : Option Unfinished → List UInt8 → List Piece
  | none, [] => []
  | some u, [] => [.stray u.seen]
  | none, b :: rest =>
    let (done, open?) := begin? b
    done ++ piecesFrom open? rest
  | some u, b :: rest =>
    if u.low ≤ b && b ≤ u.high then
      let bits := u.bits * 64 + b.toNat % 64
      match u.afterNext with
      | 0 => .char (Char.ofNat bits) :: piecesFrom none rest
      | n + 1 => piecesFrom (some ⟨n, 0x80, 0xBF, bits, u.seen ++ [b]⟩) rest
    else
      let (done, open?) := begin? b
      .stray u.seen :: (done ++ piecesFrom open? rest)

/-- The pieces of octets. -/
def pieces (octets : List UInt8) : List Piece :=
  piecesFrom none octets

/-- The character of a piece that is one. -/
def Piece.char? : Piece → Option Char
  | char c => some c
  | stray _ => none

/-- The character that stands for octets which belong to none. -/
def replacement : Char := Char.ofNat 0xFFFD

/-- The text that the octets write, if they write one. -/
def decode? (octets : List UInt8) : Option (List Char) :=
  (pieces octets).mapM Piece.char?

/-- The text that the octets write, with a replacement for each run of octets that are no text. -/
def decodeLossy (octets : List UInt8) : List Char :=
  (pieces octets).map fun p => p.char?.getD replacement

/-- The octets of a text. -/
def encode (s : List Char) : List UInt8 :=
  s.flatMap String.utf8EncodeChar

/-- The number of octets of a text. -/
def byteLength (s : List Char) : Nat :=
  s.foldl (fun n c => n + c.utf8Size) 0

example : decode? [0xC3, 0xA9, 0x21] = some ['é', '!'] := by decide
example : decode? [0xC3, 0x21] = none := by decide
example : pieces [0xE2, 0x82, 0xFF] = [.stray [0xE2, 0x82], .stray [0xFF]] := by decide
example : pieces [0xED, 0xA0, 0x80] = [.stray [0xED], .stray [0xA0], .stray [0x80]] := by decide
example : encode ['é'] = [0xC3, 0xA9] := by decide

end RailWatch.Text.Utf8

import RailWatch.Json.Value
import RailWatch.Text.Quoted
/-!
# RailWatch.Json.Fault

What can be wrong with a JSON text, and where.

A **flaw** is a breach of the grammar, a **mismatch** a value that is not of the shape that was
asked for. A **fault** is one of the two with its place in the text. The place is held as the
number of bytes after it, which a reader knows without counting what it has read, and is shown as
a line and a column in bytes.
-/

namespace RailWatch.Json

open Text

/-- A breach of the grammar of JSON. -/
inductive Flaw
  | endInValue
  | endInList
  | endInObject
  | endInString
  | noValue
  | noIdent
  | noColon
  | noListEnd
  | noObjectEnd
  | trailingComma
  | trailingText
  | keyNotString
  | badNumber
  | numberRange
  | badEscape
  | controlCharacter
  | loneSurrogate
  | hexEnd
deriving DecidableEq

/-- The flaw in words. -/
def Flaw.message : Flaw → String
  | endInValue => "EOF while parsing a value"
  | endInList => "EOF while parsing a list"
  | endInObject => "EOF while parsing an object"
  | endInString => "EOF while parsing a string"
  | noValue => "expected value"
  | noIdent => "expected ident"
  | noColon => "expected `:`"
  | noListEnd => "expected `,` or `]`"
  | noObjectEnd => "expected `,` or `\x7d`"
  | trailingComma => "trailing comma"
  | trailingText => "trailing characters"
  | keyNotString => "key must be a string"
  | badNumber => "invalid number"
  | numberRange => "number out of range"
  | badEscape => "invalid escape"
  | controlCharacter => "control character (\\u0000-\\u001F) found while parsing a string"
  | loneSurrogate => "lone leading surrogate in hex escape"
  | hexEnd => "unexpected end of hex escape"

/-- A value in words, for an error about its kind. -/
def Seen.describe : Seen → String
  | null => "null"
  | flag b => "boolean `" ++ (if b then "true" else "false") ++ "`"
  | whole n => "integer `" ++ intText n ++ "`"
  | real x => "floating point `" ++ Decimal.text x ++ "`"
  | text s => "string " ++ quoted s
  | sequence => "sequence"
  | map => "map"

/-- A value that is not of the shape asked for. -/
inductive Mismatch
  /-- A value of another kind than the one wanted. -/
  | kind (seen : Seen) (wanted : String)
  /-- A number of the right kind that is out of range. -/
  | range (n : Int) (wanted : String)
  /-- A sequence with so many elements where another number is wanted. -/
  | length (n : Nat) (wanted : String)
  /-- A required key that is not there. -/
  | missing (key : String)
  /-- A key that is given twice. -/
  | repeated (key : String)
deriving DecidableEq

/-- The mismatch in words. -/
def Mismatch.message : Mismatch → String
  | kind seen wanted => "invalid type: " ++ seen.describe ++ ", expected " ++ wanted
  | range n wanted => "invalid value: integer `" ++ intText n ++ "`, expected " ++ wanted
  | length n wanted => "invalid length " ++ padded 1 n ++ ", expected " ++ wanted
  | missing key => "missing field `" ++ key ++ "`"
  | repeated key => "duplicate field `" ++ key ++ "`"

/-- Something wrong with a text. -/
inductive Trouble
  | flaw (f : Flaw)
  | mismatch (m : Mismatch)
deriving DecidableEq

/-- The trouble in words. -/
def Trouble.message : Trouble → String
  | flaw f => f.message
  | mismatch m => m.message

/-- Something wrong with a text, and the number of bytes after the place. -/
structure Fault where
  trouble : Trouble
  left : Nat
deriving DecidableEq

/-- Line and column of the place `offset` bytes into a text, counted from `line` and `column`.
Lines count from 1; the column is the number of bytes since the line began. -/
def placeFrom : Nat → Nat → List Char → Nat → Nat × Nat
  | line, column, [], _ => (line, column)
  | line, column, c :: rest, offset =>
    if offset < c.utf8Size then (line, column + offset)
    else if c = '\n' then placeFrom (line + 1) 0 rest (offset - c.utf8Size)
    else placeFrom line (column + c.utf8Size) rest (offset - c.utf8Size)

/-- Line and column of a place in a text. -/
def place (text : List Char) (offset : Nat) : Nat × Nat :=
  placeFrom 1 0 text offset

/-- The fault of a text in words, with its place. -/
def Fault.message (f : Fault) (text : List Char) : String :=
  let (line, column) := place text (Utf8.byteLength text - f.left)
  f.trouble.message ++ " at line " ++ padded 1 line ++ " column " ++ padded 1 column

/-- A flaw just before the rest of the text. -/
def flawHere (f : Flaw) (rest : List Char) : Fault :=
  ⟨.flaw f, Utf8.byteLength rest⟩

/-- A flaw just after the first byte of the rest of the text, or at its end if nothing is left. -/
def flawAt (f : Flaw) (rest : List Char) : Fault :=
  ⟨.flaw f, Utf8.byteLength rest - 1⟩

/-- A mismatch just before the rest of the text. -/
def mismatchHere (m : Mismatch) (rest : List Char) : Fault :=
  ⟨.mismatch m, Utf8.byteLength rest⟩

end RailWatch.Json

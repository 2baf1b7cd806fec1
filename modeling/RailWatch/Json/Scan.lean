import RailWatch.Json.Fault
/-!
# RailWatch.Json.Scan

The tokens of JSON, read from the front of a text.

Every reader takes what is left of the text and gives a result with what is left after it, or the
fault it met. The numbers `fuel` bound the steps that a reader may take. They start from
`fuelFor`, twice the length of the text and a little more; of two steps at least one takes a
character, so they never run out.

* `skipSpace` passes over white space, which is space, tab, line feed and carriage return only;
* `readString` reads a string after its opening quotation mark, `readNumber` a number;
* `skipValue` passes over a whole value of any kind and depth without looking at what it says: it
  checks the grammar, but neither the range of numbers nor that surrogates come in pairs.
-/

namespace RailWatch.Json

open Text

/-- A reader of the front of a text. -/
abbrev Scan (α : Type) := List Char → Except Fault (α × List Char)

/-- Steps enough to read a text. -/
def fuelFor (text : List Char) : Nat := 2 * text.length + 2

/-- White space of JSON. -/
def isSpace (c : Char) : Bool :=
  c = ' ' || c = '\t' || c = '\n' || c = '\r'

/-- The text without the white space in front. -/
def skipSpace (s : List Char) : List Char :=
  s.dropWhile isSpace

/-! ## Words -/

/-- Reads the rest of one of the words `null`, `true` and `false`. -/
def readWord : List Char → List Char → Except Fault (List Char)
  | [], s => .ok s
  | _ :: _, [] => .error (flawHere .endInValue [])
  | w :: word, c :: s => if c = w then readWord word s else .error (flawAt .noIdent (c :: s))

/-! ## Strings -/

/-- The value of a hexadecimal digit. -/
def hexValue? (c : Char) : Option Nat :=
  if isDigit c then some (digitValue c)
  else if 'a' ≤ c && c ≤ 'f' then some (c.toNat - 87)
  else if 'A' ≤ c && c ≤ 'F' then some (c.toNat - 55)
  else none

/-- The number that four hexadecimal digits write. -/
def hexNumber? (a b c d : Char) : Option Nat := do
  let a ← hexValue? a
  let b ← hexValue? b
  let c ← hexValue? c
  let d ← hexValue? d
  return ((a * 16 + b) * 16 + c) * 16 + d

/-- The fault of an escape whose four digits are not there: the text ends within the next four
bytes, or one of them is no digit. -/
def hexFault (s : List Char) : Fault :=
  if Text.Utf8.byteLength s < 4 then flawHere .endInString []
  else ⟨.flaw .badEscape, Text.Utf8.byteLength s - 4⟩

/-- Four hexadecimal digits. -/
def readHex : Scan Nat
  | a :: b :: c :: d :: s =>
    match hexNumber? a b c d with
    | some n => .ok (n, s)
    | none => .error (hexFault (a :: b :: c :: d :: s))
  | s => .error (hexFault s)

/-- A leading surrogate, the first half of a pair. -/
def isLeading (n : Nat) : Bool := 0xD800 ≤ n && n ≤ 0xDBFF

/-- A trailing surrogate, the second half of a pair. -/
def isTrailing (n : Nat) : Bool := 0xDC00 ≤ n && n ≤ 0xDFFF

/-- The character that a pair of surrogates stands for. -/
def pairChar (lead trail : Nat) : Char :=
  Char.ofNat (0x10000 + (lead - 0xD800) * 0x400 + (trail - 0xDC00))

/-- The trailing surrogate that has to follow a leading one. -/
def readTrailing (lead : Nat) : Scan Char
  | [] => .error (flawHere .endInString [])
  | c :: s =>
    if c = '\\' then
      match s with
      | [] => .error (flawHere .endInString [])
      | d :: s' =>
        if d = 'u' then do
          let (n, s) ← readHex s'
          if isTrailing n then .ok (pairChar lead n, s) else .error (flawHere .loneSurrogate s)
        else .error (flawAt .hexEnd (d :: s'))
    else .error (flawAt .hexEnd (c :: s))

/-- A character given by its code, after `\u`. -/
def readCode (s : List Char) : Except Fault (Char × List Char) := do
  let (n, s) ← readHex s
  if isTrailing n then .error (flawHere .loneSurrogate s)
  else if isLeading n then readTrailing n s
  else .ok (Char.ofNat n, s)

/-- The character that a letter after a backslash stands for. -/
def plainEscape? (c : Char) : Option Char :=
  if c = '"' || c = '\\' || c = '/' then some c
  else if c = 'b' then some (Char.ofNat 8)
  else if c = 'f' then some (Char.ofNat 12)
  else if c = 'n' then some '\n'
  else if c = 'r' then some '\r'
  else if c = 't' then some '\t'
  else none

/-- An escape, after its backslash. -/
def readEscape : Scan Char
  | [] => .error (flawHere .endInString [])
  | c :: s =>
    if c = 'u' then readCode s
    else
      match plainEscape? c with
      | some d => .ok (d, s)
      | none => .error (flawAt .badEscape (c :: s))

/-- A control character, which may not stand in a string. -/
def isControl (c : Char) : Bool := c.toNat < 0x20

/-- The rest of a string after its opening quotation mark; `done` holds, last one first, the
characters read so far. -/
def readStringFrom (done : List Char) : Nat → List Char → Except Fault (String × List Char)
  | 0, s => .error (flawHere .endInString s)
  | _ + 1, [] => .error (flawHere .endInString [])
  | fuel + 1, c :: s =>
    if c = '"' then .ok (String.ofList done.reverse, s)
    else if c = '\\' then
      match readEscape s with
      | .ok (d, s) => readStringFrom (d :: done) fuel s
      | .error e => .error e
    else if isControl c then .error (flawHere .controlCharacter s)
    else readStringFrom (c :: done) fuel s

/-- A string after its opening quotation mark. -/
def readString (fuel : Nat) (s : List Char) : Except Fault (String × List Char) :=
  readStringFrom [] fuel s

/-- Passes over the rest of a string after its opening quotation mark. -/
def skipString : Nat → List Char → Except Fault (List Char)
  | 0, s => .error (flawHere .endInString s)
  | _ + 1, [] => .error (flawHere .endInString [])
  | fuel + 1, c :: s =>
    if c = '"' then .ok s
    else if c = '\\' then
      match s with
      | [] => .error (flawHere .endInString [])
      | d :: s =>
        if d = 'u' then
          match readHex s with
          | .ok (_, s) => skipString fuel s
          | .error e => .error e
        else if (plainEscape? d).isSome then skipString fuel s
        else .error (flawAt .badEscape (d :: s))
    else if isControl c then .error (flawHere .controlCharacter (c :: s))
    else skipString fuel s

/-! ## Numbers -/

/-- The greatest unsigned number of 64 bits. -/
def maxUnsigned : Nat := 18446744073709551615

/-- The greatest exponent that is read exactly. -/
def maxExponent : Nat := 2147483647

/-- Appends digits to a significand as long as 64 bits hold it; also the number of digits that were
left out. -/
def extend : Nat → List Char → Nat × Nat
  | n, [] => (n, 0)
  | n, d :: ds =>
    if n * 10 + digitValue d ≤ maxUnsigned then extend (n * 10 + digitValue d) ds
    else (n, ds.length + 1)

/-- The value of the digits of an exponent, or, if it is too large, the number of digits after the
one that made it so. -/
def exponentValue : Nat → List Char → Nat ⊕ Nat
  | n, [] => .inl n
  | n, d :: ds =>
    if n * 10 + digitValue d ≤ maxExponent then exponentValue (n * 10 + digitValue d) ds
    else .inr ds.length

/-- The digits before the point. A zero stands alone. -/
def readWhole : Scan (List Char)
  | [] => .error (flawHere .endInValue [])
  | c :: s =>
    if c = '0' then
      match s with
      | d :: _ => if isDigit d then .error (flawAt .badNumber s) else .ok ([c], s)
      | [] => .ok ([c], s)
    else if isDigit c then .ok (spanDigits (c :: s))
    else .error (flawAt .badNumber (c :: s))

/-- The digits after the point, if there is one; there has to be at least one digit then. -/
def readFraction : Scan (Option (List Char))
  | '.' :: s =>
    let (ds, rest) := spanDigits s
    if ds.isEmpty then
      match rest with
      | [] => .error (flawHere .endInValue [])
      | c :: rest => .error (flawAt .badNumber (c :: rest))
    else .ok (some ds, rest)
  | s => .ok (none, s)

/-- A sign; only a minus makes a number negative. -/
def readSign : List Char → Bool × List Char
  | '+' :: s => (false, s)
  | '-' :: s => (true, s)
  | s => (false, s)

/-- The sign and the digits of an exponent, if there is one. -/
def readExponent : Scan (Option (Bool × List Char))
  | c :: s =>
    if c = 'e' || c = 'E' then
      let (negative, s) := readSign s
      match s with
      | [] => .error (flawHere .endInValue [])
      | d :: r =>
        if isDigit d then
          let (ds, rest) := spanDigits (d :: r)
          .ok (some (negative, ds), rest)
        else .error (flawAt .badNumber (d :: r))
    else .ok (none, c :: s)
  | [] => .ok (none, [])

/-- The real number of a significand and a decimal exponent, unless it is out of range. -/
def realNumber (negative : Bool) (significand : Nat) (exponent : Int) (rest : List Char) :
    Except Fault (Number × List Char) :=
  match Binary64.ofDecimal? significand exponent with
  | some x => .ok (.real (x.withSign negative), rest)
  | none => .error (flawHere .numberRange rest)

/-- The number without fraction and exponent. It is whole if 64 bits hold it; a negative zero is
not. -/
def wholeNumber (negative : Bool) (significand : Nat) (rest : List Char) :
    Except Fault (Number × List Char) :=
  if negative then
    if significand = 0 || maxUnsigned / 2 + 1 < significand then
      realNumber true significand 0 rest
    else .ok (.whole (-(significand : Int)), rest)
  else .ok (.whole significand, rest)

/-- A number after its sign, if it had one. -/
def readNumber (negative : Bool) (s : List Char) : Except Fault (Number × List Char) := do
  let (whole, s) ← readWhole s
  let (fraction, s) ← readFraction s
  let (exponent, s) ← readExponent s
  let (n, dropped) := extend 0 whole
  match fraction, exponent with
  | none, none =>
    if dropped = 0 then wholeNumber negative n s else realNumber negative n dropped s
  | _, _ =>
    let ds := fraction.getD []
    let (n, unread) := extend n ds
    let start : Int := (dropped : Int) - (ds.length - unread)
    match exponent with
    | none => realNumber negative n start s
    | some (down, ds) =>
      match exponentValue 0 ds with
      | .inl e => realNumber negative n (if down then start - e else start + e) s
      | .inr after =>
        if n ≠ 0 && !down then .error ⟨.flaw .numberRange, Text.Utf8.byteLength s + after⟩
        else realNumber negative 0 0 s

/-- Passes over the digits before the point. -/
def skipWhole : List Char → Except Fault (List Char)
  | [] => .error (flawHere .badNumber [])
  | c :: s =>
    if c = '0' then
      match s with
      | d :: _ => if isDigit d then .error (flawAt .badNumber s) else .ok s
      | [] => .ok s
    else if isDigit c then .ok (spanDigits s).2
    else .error (flawAt .badNumber (c :: s))

/-- Passes over the point and the digits after it, if there is one. -/
def skipFraction : List Char → Except Fault (List Char)
  | '.' :: s =>
    let (ds, rest) := spanDigits s
    if ds.isEmpty then .error (flawAt .badNumber rest) else .ok rest
  | s => .ok s

/-- Passes over an exponent, if there is one. -/
def skipExponent : List Char → Except Fault (List Char)
  | e :: s =>
    if e = 'e' || e = 'E' then
      match (readSign s).2 with
      | d :: r => if isDigit d then .ok (spanDigits r).2 else .error (flawAt .badNumber (d :: r))
      | [] => .error (flawHere .badNumber [])
    else .ok (e :: s)
  | [] => .ok []

/-- Passes over a number after its sign; an end of the text within it is no different from a wrong
character. -/
def skipNumber (s : List Char) : Except Fault (List Char) := do
  let s ← skipWhole s
  let s ← skipFraction s
  skipExponent s

/-! ## Lists and objects -/

/-- Looks for the next element of a list: where it starts, or nothing at the closing bracket. -/
def nextItem (first : Bool) (s : List Char) : Except Fault (Option (List Char)) :=
  match skipSpace s with
  | [] => .error (flawHere .endInList [])
  | c :: r =>
    if c = ']' then .ok none
    else if first then .ok (some (c :: r))
    else if c = ',' then
      match skipSpace r with
      | [] => .error (flawHere .endInValue [])
      | d :: r =>
        if d = ']' then .error (flawAt .trailingComma (d :: r)) else .ok (some (d :: r))
    else .error (flawAt .noListEnd (c :: r))

/-- Looks for the next key of an object: what follows its opening quotation mark, or nothing at the
closing brace. -/
def nextKey (first : Bool) (s : List Char) : Except Fault (Option (List Char)) :=
  match skipSpace s with
  | [] => .error (flawHere .endInObject [])
  | c :: r =>
    if c = Char.ofNat 0x7D then .ok none
    else if first then
      if c = '"' then .ok (some r) else .error (flawAt .keyNotString (c :: r))
    else if c = ',' then
      match skipSpace r with
      | [] => .error (flawHere .endInValue [])
      | d :: r =>
        if d = '"' then .ok (some r)
        else if d = Char.ofNat 0x7D then .error (flawAt .trailingComma (d :: r))
        else .error (flawAt .keyNotString (d :: r))
    else .error (flawAt .noObjectEnd (c :: r))

/-- The colon between a key and its value. -/
def readColon (s : List Char) : Except Fault (List Char) :=
  match skipSpace s with
  | [] => .error (flawHere .endInObject [])
  | c :: r => if c = ':' then .ok r else .error (flawAt .noColon (c :: r))

/-- The closing bracket of a list whose elements have all been read. -/
def closeList (s : List Char) : Except Fault (List Char) :=
  match skipSpace s with
  | [] => .error (flawHere .endInList [])
  | c :: r =>
    if c = ']' then .ok r
    else if c = ',' then
      match skipSpace r with
      | d :: r =>
        if d = ']' then .error (flawAt .trailingComma (d :: r))
        else .error (flawAt .trailingText (d :: r))
      | [] => .error (flawHere .trailingText [])
    else .error (flawAt .trailingText (c :: r))

/-- Nothing but white space may follow the value of a text. -/
def closeText (s : List Char) : Except Fault Unit :=
  match skipSpace s with
  | [] => .ok ()
  | c :: r => .error (flawAt .trailingText (c :: r))

/-! ## Values that nobody looks at -/

/-- A list or an object that is still open. -/
inductive Frame
  | list
  | object
deriving DecidableEq

/-- The bracket that closes a frame. -/
def Frame.closer : Frame → Char
  | list => ']'
  | object => Char.ofNat 0x7D

/-- The flaw of a text that ends within a frame. -/
def Frame.endFlaw : Frame → Flaw
  | list => .endInList
  | object => .endInObject

/-- The flaw of a frame that neither goes on nor is closed. -/
def Frame.openFlaw : Frame → Flaw
  | list => .noListEnd
  | object => .noObjectEnd

/-- What comes next while a value is passed over. -/
inductive Await
  /-- A value. -/
  | value
  /-- The first element or key of the innermost frame, or its end. -/
  | first
  /-- A key of the innermost frame, which is an object. -/
  | key
  /-- A comma, or the end of the innermost frame. -/
  | next
deriving DecidableEq

/-- What has to come in a frame where an element or a member starts. -/
def Frame.start : Frame → Await
  | list => .value
  | object => .key

/-- Passes over the rest of a value, of which the frames are still open, innermost first. -/
def skipFrom : Nat → Await → List Frame → List Char → Except Fault (List Char)
  | 0, _, _, s => .error (flawHere .endInValue s)
  | fuel + 1, .value, frames, s =>
    match skipSpace s with
    | [] => .error (flawHere .endInValue [])
    | c :: r =>
      if c = 'n' then readWord ['u', 'l', 'l'] r >>= skipFrom fuel .next frames
      else if c = 't' then readWord ['r', 'u', 'e'] r >>= skipFrom fuel .next frames
      else if c = 'f' then readWord ['a', 'l', 's', 'e'] r >>= skipFrom fuel .next frames
      else if c = '-' then skipNumber r >>= skipFrom fuel .next frames
      else if isDigit c then skipNumber (c :: r) >>= skipFrom fuel .next frames
      else if c = '"' then skipString fuel r >>= skipFrom fuel .next frames
      else if c = '[' then skipFrom fuel .first (.list :: frames) r
      else if c = Char.ofNat 0x7B then skipFrom fuel .first (.object :: frames) r
      else .error (flawAt .noValue (c :: r))
  | _ + 1, .next, [], s => .ok s
  | fuel + 1, .next, frame :: frames, s =>
    match skipSpace s with
    | [] => .error (flawHere frame.endFlaw [])
    | c :: r =>
      if c = ',' then skipFrom fuel frame.start (frame :: frames) r
      else if c = frame.closer then skipFrom fuel .next frames r
      else .error (flawAt frame.openFlaw (c :: r))
  | _ + 1, .first, [], s => .ok s
  | fuel + 1, .first, frame :: frames, s =>
    match skipSpace s with
    | [] => .error (flawHere frame.endFlaw [])
    | c :: r =>
      if c = frame.closer then skipFrom fuel .next frames r
      else skipFrom fuel frame.start (frame :: frames) (c :: r)
  | fuel + 1, .key, frames, s =>
    match skipSpace s with
    | [] => .error (flawHere .endInObject [])
    | c :: r =>
      if c = '"' then do
        let r ← skipString fuel r
        let r ← readColon r
        skipFrom fuel .value frames r
      else .error (flawAt .keyNotString (c :: r))

/-- Passes over a value. -/
def skipValue (fuel : Nat) (s : List Char) : Except Fault (List Char) :=
  skipFrom fuel .value [] s

end RailWatch.Json

import RailWatch.Text.Utf8
/-!
# RailWatch.Url.Percent

Percent-encoding, and which octets need it in which part of an address.

A text is encoded octet by octet. A percent sign is never encoded, so a text that is already
encoded stays as it is; decoding leaves a percent sign alone that no two digits follow.
-/

namespace RailWatch.Url

open Text

/-- An octet in percent-encoding. -/
def percentOctet (b : UInt8) : List Char :=
  '%' :: (Nat.toDigits 16 (b.toNat / 16) ++ Nat.toDigits 16 (b.toNat % 16)).map Char.toUpper

/-- A text with those octets encoded that a part of an address cannot hold. -/
def percentEncode (isEncoded : UInt8 → Bool) (s : List Char) : List Char :=
  (Utf8.encode s).flatMap fun b =>
    if isEncoded b then percentOctet b else [Char.ofNat b.toNat]

/-- One of these characters. -/
def isAmong (chars : List Char) (b : UInt8) : Bool :=
  chars.any fun c => c.toNat = b.toNat

/-- The octets that need encoding everywhere: all but the visible characters of ASCII and space. -/
def inEveryPart (b : UInt8) : Bool :=
  b < 0x20 || 0x7E < b

/-- The octets that need encoding in a fragment. -/
def inFragment (b : UInt8) : Bool :=
  inEveryPart b || isAmong [' ', '"', '<', '>', Char.ofNat 0x60] b

/-- The octets that need encoding in a query. -/
def inQuery (b : UInt8) : Bool :=
  inEveryPart b || isAmong [' ', '"', '#', '<', '>'] b

/-- The octets that need encoding in the query of an address of the web. -/
def inWebQuery (b : UInt8) : Bool :=
  inQuery b || isAmong [Char.ofNat 39] b

/-- The octets that need encoding in a path. -/
def inPath (b : UInt8) : Bool :=
  inQuery b || isAmong ['?', Char.ofNat 0x60, Char.ofNat 0x7B, Char.ofNat 0x7D] b

/-- The octets that need encoding in the name or password of a user. -/
def inUser (b : UInt8) : Bool :=
  inPath b || isAmong ['/', ':', ';', '=', '@', '[', '\\', ']', '^', '|'] b

/-- The octets that need encoding in a name or value of a form. -/
def inForm (b : UInt8) : Bool :=
  !(isAmong ['*', '-', '.', '_'] b || (0x30 ≤ b && b ≤ 0x39) || (0x41 ≤ b && b ≤ 0x5A) ||
    (0x61 ≤ b && b ≤ 0x7A))

/-- The value of a digit in base sixteen. -/
def hexValue? (c : Char) : Option Nat :=
  if '0' ≤ c && c ≤ '9' then some (c.toNat - 48)
  else if 'a' ≤ c && c ≤ 'f' then some (c.toNat - 87)
  else if 'A' ≤ c && c ≤ 'F' then some (c.toNat - 55)
  else none

/-- The octets of a text in percent-encoding. -/
def percentDecode : List Char → List UInt8
  | [] => []
  | c :: rest =>
    match c, rest with
    | '%', a :: b :: tail =>
      match hexValue? a, hexValue? b with
      | some x, some y => UInt8.ofNat (16 * x + y) :: percentDecode tail
      | _, _ => Utf8.encode ['%'] ++ percentDecode (a :: b :: tail)
    | c, rest => Utf8.encode [c] ++ percentDecode rest

/-- A name or value of a form: spaces become plus signs. -/
def formEncode (s : List Char) : List Char :=
  (Utf8.encode s).flatMap fun b =>
    if b = 0x20 then ['+'] else if inForm b then percentOctet b else [Char.ofNat b.toNat]

example : percentEncode inPath "a b^".toList = "a%20b^".toList := by cbv
example : percentEncode inPath "à%41".toList = "%C3%A0%41".toList := by cbv
example : percentDecode "%C3%A0%4".toList = Utf8.encode "à%4".toList := by cbv

end RailWatch.Url

import RailWatch.Text.Utf8
/-!
# RailWatch.Text.Charset.Utf16

Octets as text in UTF-16, with either octet of a unit first.

A half of a character without its other half counts as a replacement, and so does an octet that is
left at the end, together with a half before it.
-/

namespace RailWatch.Text.Charset.Utf16

/-- The first of the two halves that a character beyond 16 bits is written with. -/
def isHighHalf (n : Nat) : Bool := 0xD800 ≤ n && n < 0xDC00

/-- The second of the two halves. -/
def isLowHalf (n : Nat) : Bool := 0xDC00 ≤ n && n < 0xE000

/-- The text of units of 16 bits, with an octet behind them or none. -/
def charsOfUnits (isOdd : Bool) : List Nat → List Char
  | [] => if isOdd then [Utf8.replacement] else []
  | [n] =>
    if isHighHalf n then [Utf8.replacement]
    else
      (if isLowHalf n then Utf8.replacement else Char.ofNat n) ::
        (if isOdd then [Utf8.replacement] else [])
  | n :: m :: rest =>
    if isHighHalf n then
      if isLowHalf m then
        Char.ofNat (0x10000 + (n - 0xD800) * 0x400 + (m - 0xDC00)) :: charsOfUnits isOdd rest
      else Utf8.replacement :: charsOfUnits isOdd (m :: rest)
    else
      (if isLowHalf n then Utf8.replacement else Char.ofNat n) :: charsOfUnits isOdd (m :: rest)

/-- The units of 16 bits that octets make up. -/
def units (combine : UInt8 → UInt8 → Nat) : List UInt8 → List Nat
  | a :: b :: rest => combine a b :: units combine rest
  | _ => []

/-- The text of octets in a given order. -/
def read (combine : UInt8 → UInt8 → Nat) (octets : List UInt8) : List Char :=
  charsOfUnits (octets.length % 2 = 1) (units combine octets)

/-- The text of octets that have the lesser octet of a unit first. -/
def readLittle : List UInt8 → List Char := read fun a b => a.toNat + 256 * b.toNat

/-- The text of octets that have the greater octet of a unit first. -/
def readBig : List UInt8 → List Char := read fun a b => 256 * a.toNat + b.toNat

example : readLittle [0x3D, 0xD8, 0x00, 0xDE, 0x41] = ['😀', Utf8.replacement] := by decide
example : readBig [0xD8, 0x3D, 0x41] = [Utf8.replacement] := by decide

end RailWatch.Text.Charset.Utf16

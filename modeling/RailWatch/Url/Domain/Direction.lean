import RailWatch.Text.Mark
/-!
# RailWatch.Url.Domain.Direction

Labels of domain names that are written from right to left.

If any label of a name has a character of a right-to-left script or an Arabic digit, then each label
has to keep to one direction: its first character says which one, and the last character that is
no mark has to agree.
-/

namespace RailWatch.Url.Domain

open Text

/-- How a character takes part in the direction of a text. -/
inductive Direction
  | left
  | right
  | arabicNumber
  | europeanNumber
  | neutral
  /-- A mark, which takes the direction of what is before it. -/
  | mark
deriving DecidableEq

namespace Direction

/-- The ranges of characters of right-to-left scripts. -/
def rightRanges : List (Nat × Nat) := [
   (0x5BE, 0x5BE), (0x5C0, 0x5C0), (0x5C3, 0x5C3), (0x5C6, 0x5C6), (0x5D0, 0x5F4), (0x608, 0x608),
   (0x60B, 0x60B), (0x60D, 0x60D), (0x61B, 0x64A), (0x66D, 0x66F), (0x671, 0x6D5), (0x6E5, 0x6E6),
   (0x6EE, 0x6EF), (0x6FA, 0x710), (0x712, 0x72F), (0x74D, 0x7A5), (0x7B1, 0x7EA), (0x7F4, 0x7F5),
   (0x7FA, 0x7FA), (0x7FE, 0x815), (0x81A, 0x81A), (0x824, 0x824), (0x828, 0x828), (0x830, 0x858),
   (0x85E, 0x88F), (0x8A0, 0x8C9), (0xFBB2, 0xFBC2), (0xFE73, 0xFE73), (0x10800, 0x1091B),
   (0x10920, 0x10A00), (0x10A10, 0x10A35), (0x10A40, 0x10AE4), (0x10AEB, 0x10B35),
   (0x10B40, 0x10D23), (0x10D4A, 0x10D4F), (0x10D6F, 0x10D8F), (0x10E80, 0x10EA9),
   (0x10EAD, 0x10EC7), (0x10F00, 0x10F45), (0x10F51, 0x10F81), (0x10F86, 0x10FF6),
   (0x1E800, 0x1E8CF), (0x1E922, 0x1E943), (0x1E94B, 0x1ED3D)]

/-- The ranges of digits that are written from left to right in Arabic. -/
def arabicNumberRanges : List (Nat × Nat) := [
   (0x660, 0x669), (0x66B, 0x66C), (0x10D30, 0x10D49), (0x10E60, 0x10E7E)]

/-- The ranges of all other digits that have no direction of their own. -/
def europeanNumberRanges : List (Nat × Nat) := [
   (0x30, 0x39), (0x6F0, 0x6F9), (0x102E1, 0x102FB)]

/-- The ranges of signs without a direction. -/
def neutralRanges : List (Nat × Nat) := [
   (0x0, 0x2F), (0x3A, 0x40), (0x5B, 0x60), (0x7B, 0xD7), (0xF7, 0xF7), (0x2B9, 0x2BA),
   (0x2C2, 0x2CF), (0x2D2, 0x2ED), (0x2EF, 0x2FF), (0x375, 0x375), (0x3F6, 0x3F6), (0x58A, 0x58F),
   (0x606, 0x607), (0x609, 0x60A), (0x60C, 0x60C), (0x60E, 0x60F), (0x66A, 0x66A), (0x6DE, 0x6DE),
   (0x6E9, 0x6E9), (0x7F6, 0x7F9), (0x9F2, 0x9F3), (0x9FB, 0x9FB), (0xAF1, 0xAF1), (0xBF3, 0xBFA),
   (0xC78, 0xC7E), (0xE3F, 0xE3F), (0xF3A, 0xF3D), (0x1390, 0x1399), (0x1400, 0x1400),
   (0x169B, 0x169C), (0x17DB, 0x17DB), (0x17F0, 0x180A), (0x1940, 0x1945), (0x19DE, 0x19FF),
   (0x200C, 0x20C1), (0x2104, 0x214D), (0x218A, 0x2335), (0x237B, 0x2394), (0x2396, 0x26AB),
   (0x26AD, 0x27FF), (0x2900, 0x2BFF), (0x2CE5, 0x2CEA), (0x2CF9, 0x2CFF), (0x2E00, 0x3004),
   (0x3008, 0x3020), (0x3030, 0x3030), (0x3037, 0x3037), (0x303D, 0x303F), (0x30A0, 0x30A0),
   (0x30FB, 0x30FB), (0x31C0, 0x31E5), (0x4DC0, 0x4DFF), (0xA490, 0xA4C6), (0xA60D, 0xA60F),
   (0xA673, 0xA673), (0xA67E, 0xA67F), (0xA700, 0xA721), (0xA788, 0xA788), (0xA828, 0xA82B),
   (0xA838, 0xA839), (0xA874, 0xA877), (0xAB6A, 0xAB6B), (0xFBC3, 0xFDFF), (0xFE45, 0xFE46),
   (0x10101, 0x10101), (0x10140, 0x1018C), (0x10190, 0x101A0), (0x1091F, 0x1091F),
   (0x10B39, 0x10B3F), (0x10D6E, 0x10D6E), (0x10ED0, 0x10ED8), (0x11052, 0x11065),
   (0x11660, 0x1166C), (0x11FD5, 0x11FF1), (0x16FE2, 0x16FE2), (0x1CC00, 0x1CEF0),
   (0x1D1E9, 0x1D241), (0x1D245, 0x1D245), (0x1D300, 0x1D356), (0x1E2FF, 0x1E2FF),
   (0x1EEF0, 0x1F12F), (0x1F16D, 0x1F16F), (0x1F1AD, 0x1F1AD), (0x1F260, 0x1FBFA)]

/-- The marks that have the direction of a letter. -/
def leftMarks : List Nat := [0xCBF, 0xCC6, 0x11A07, 0x11A08, 0x11C3F]

/-- The direction of a character of a name. -/
def ofChar (c : Char) : Direction :=
  let n := c.toNat
  if inRanges rightRanges n then right
  else if inRanges arabicNumberRanges n then arabicNumber
  else if inRanges europeanNumberRanges n then europeanNumber
  else if inRanges neutralRanges n then neutral
  else if isNonspacingMark c && !leftMarks.contains n then mark
  else left

/-- Whether a label with such a character makes a name one of both directions. -/
def isRightward (d : Direction) : Bool :=
  d = right || d = arabicNumber

/-- The directions of a label up to the last one that is no mark, last one first. -/
def core (ds : List Direction) : List Direction :=
  ds.reverse.dropWhile (· = mark)

/-- Whether a label keeps to the direction of its first character. -/
def isConsistent (ds : List Direction) : Bool :=
  match ds.head?, (core ds).head? with
  | some right, some last =>
    !ds.contains left && last ≠ neutral && !(ds.contains europeanNumber && ds.contains arabicNumber)
  | some left, some last =>
    ds.all (fun d => d ≠ right && d ≠ arabicNumber) && (last = left || last = europeanNumber)
  | none, _ => true
  | _, _ => false

end Direction

example : Direction.isConsistent ("אב1".toList.map Direction.ofChar) = true := by decide +kernel
example : Direction.isConsistent ("1אב".toList.map Direction.ofChar) = false := by decide +kernel
example : Direction.isConsistent ("aא".toList.map Direction.ofChar) = false := by decide +kernel

end RailWatch.Url.Domain

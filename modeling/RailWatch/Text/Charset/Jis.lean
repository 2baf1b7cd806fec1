import RailWatch.Text.Charset.Jis.Kanji
import RailWatch.Text.Charset.Jis.Supplement
import RailWatch.Text.Charset.OctetReader
/-!
# RailWatch.Text.Charset.Jis

The three charsets of Japan. They share the charts of kanji and the halfwidth kana, and differ in
the octets that the cells of the charts are written with.

`shiftReader` has pairs of octets with room for cells of private use. `eucReader` has pairs of
octets of the upper half, and the cells of the second chart behind an octet of their own.
`escapeReader` has octets of ASCII only, and sequences that start with an escape change what they
stand for.
-/

namespace RailWatch.Text.Charset.Jis

/-- The number of cells in a row. -/
def rowSize : Nat := 94

/-- The halfwidth kana with a number from zero on. -/
def halfwidth (n : Nat) : Char := Char.ofNat (0xFF61 + n)

/-! ## Shifted pairs -/

/-- The first cell for private use. -/
def privateStart : Nat := 94 * rowSize

/-- The cell behind the last one for private use. -/
def privateEnd : Nat := 114 * rowSize

/-- The character that an octet is by itself. -/
def shiftSingle? (b : UInt8) : Option Char :=
  if b ≤ 0x80 then some (Char.ofNat b.toNat)
  else if 0xA1 ≤ b && b ≤ 0xDF then some (halfwidth (b.toNat - 0xA1))
  else none

/-- The octets that start a pair. -/
def isShiftLead (b : UInt8) : Bool :=
  (0x81 ≤ b && b ≤ 0x9F) || (0xE0 ≤ b && b ≤ 0xFC)

/-- The characters of a pair of octets. -/
def shiftPair? (lead b : UInt8) : Option (List Char) :=
  if (0x40 ≤ b && b ≤ 0x7E) || (0x80 ≤ b && b ≤ 0xFC) then
    let rows := 2 * (lead.toNat - if lead < 0xA0 then 0x81 else 0xC1)
    let cell := rows * rowSize + b.toNat - if b < 0x7F then 0x40 else 0x41
    if privateStart ≤ cell && cell < privateEnd then
      some [Char.ofNat (0xE000 + cell - privateStart)]
    else (kanji.get? cell).map ([·])
  else none

/-- The reader of shifted pairs. -/
def shiftReader : OctetReader (Option UInt8) :=
  pairReader shiftSingle? isShiftLead shiftPair?

example : shiftReader.read [0xB1, 0xF0, 0x40] = ['ｱ', '\ue000'] := by decide +kernel

/-! ## Pairs of the upper half -/

/-- The octets that were read of a character so far. -/
inductive EucSeen
  | none
  /-- The first octet of a pair. -/
  | one (lead : UInt8)
  /-- The first octet of a pair of the second chart, behind the octet that announces it. -/
  | supplement (lead : UInt8)

/-- The octet that announces a halfwidth kana. -/
def kanaMark : UInt8 := 0x8E

/-- The octet that announces a pair of the second chart. -/
def supplementMark : UInt8 := 0x8F

/-- The octets that pairs are made of. -/
def isEucOctet (b : UInt8) : Bool := 0xA1 ≤ b && b ≤ 0xFE

/-- The character of a pair of octets in a chart. -/
def eucPair? (chart : Chart) (lead b : UInt8) : Option Char :=
  if isEucOctet lead && isEucOctet b then
    chart.get? ((lead.toNat - 0xA1) * rowSize + b.toNat - 0xA1)
  else none

/-- What the last octet of a character gives. -/
def eucEnd (c : Option Char) (b : UInt8) : List Char × EucSeen :=
  (match c with
    | some c => [c]
    | .none => strayPair b, .none)

/-- One more octet. -/
def eucStep : EucSeen → UInt8 → List Char × EucSeen
  | .none, b =>
    match asciiChar? b with
    | some c => ([c], .none)
    | .none =>
      if b = kanaMark || b = supplementMark || isEucOctet b then ([], .one b)
      else ([Utf8.replacement], .none)
  | .one lead, b =>
    if lead = kanaMark && 0xA1 ≤ b && b ≤ 0xDF then ([halfwidth (b.toNat - 0xA1)], .none)
    else if lead = supplementMark && isEucOctet b then ([], .supplement b)
    else eucEnd (eucPair? kanji lead b) b
  | .supplement lead, b => eucEnd (eucPair? supplement lead b) b

/-- The reader of pairs of the upper half. -/
def eucReader : OctetReader EucSeen where
  start := .none
  step := eucStep
  stop
    | .none => []
    | _ => [Utf8.replacement]

example : eucReader.read [0x8E, 0xB1, 0x8F, 0x21] = ['ｱ', Utf8.replacement, '!'] := by
  decide +kernel

/-! ## Escape sequences -/

/-- What octets stand for. -/
inductive Mode
  | ascii
  /-- ASCII with a yen sign and an overline. -/
  | roman
  | kana
  /-- Pairs of octets. -/
  | kanji
deriving DecidableEq

/-- Where a reader is in the text. -/
inductive Place
  /-- Before a character. -/
  | plain
  /-- Behind the first octet of a pair. -/
  | pair (lead : UInt8)
  /-- Behind an escape. -/
  | escape
  /-- Behind an escape and another octet of its sequence. -/
  | sequence (first : UInt8)

/-- What a reader keeps in mind. -/
structure EscapeState where
  mode : Mode
  place : Place
  /-- Whether nothing came since the last sequence. -/
  isFresh : Bool

/-- The octet of the escape. -/
def escape : UInt8 := 0x1B

/-- An octet that stands for itself in ASCII. -/
def isPlainOctet (b : UInt8) : Bool := b < 0x80 && b ≠ 0x0E && b ≠ 0x0F

/-- The character of an octet before a character; none for the first octet of a pair. -/
def plainChar (mode : Mode) (b : UInt8) : Option Char :=
  match mode with
  | .ascii => some (if isPlainOctet b then Char.ofNat b.toNat else Utf8.replacement)
  | .roman =>
    some (if b = 0x5C then '¥' else if b = 0x7E then '‾'
      else if isPlainOctet b then Char.ofNat b.toNat else Utf8.replacement)
  | .kana =>
    some (if 0x21 ≤ b && b ≤ 0x5F then halfwidth (b.toNat - 0x21) else Utf8.replacement)
  | .kanji => if 0x21 ≤ b && b ≤ 0x7E then none else some Utf8.replacement

/-- What an octet gives before a character. -/
def plainStep (mode : Mode) (b : UInt8) : List Char × EscapeState :=
  match plainChar mode b with
  | some c => ([c], ⟨mode, .plain, false⟩)
  | none => ([], ⟨mode, .pair b, false⟩)

/-- What an octet gives behind the first one of a pair. -/
def pairStep (mode : Mode) (lead b : UInt8) : List Char × EscapeState :=
  let cell := (lead.toNat - 0x21) * rowSize + b.toNat - 0x21
  let c := if 0x21 ≤ b && b ≤ 0x7E then Jis.kanji.get? cell else none
  ([c.getD Utf8.replacement], ⟨mode, .plain, false⟩)

/-- The mode that a sequence behind an escape changes to. -/
def modeOf? (first second : UInt8) : Option Mode :=
  if first = 0x28 then
    if second = 0x42 then some .ascii
    else if second = 0x4A then some .roman
    else if second = 0x49 then some .kana
    else none
  else if second = 0x40 || second = 0x42 then some .kanji
  else none

/-- What an octet gives that no sequence is open before. -/
def openStep (s : EscapeState) (b : UInt8) : List Char × EscapeState :=
  match s.place with
  | .pair lead =>
    if b = escape then ([Utf8.replacement], { s with place := .escape })
    else pairStep s.mode lead b
  | _ => if b = escape then ([], { s with place := .escape }) else plainStep s.mode b

/-- One more octet. Of a sequence that is none, only the escape is lost. Two sequences with nothing
between them are a fault. -/
def escapeStep (s : EscapeState) (b : UInt8) : List Char × EscapeState :=
  match s.place with
  | .escape =>
    if b = 0x24 || b = 0x28 then ([], { s with place := .sequence b })
    else
      let (chars, s) := openStep ⟨s.mode, .plain, false⟩ b
      (Utf8.replacement :: chars, s)
  | .sequence first =>
    match modeOf? first b with
    | some mode => (if s.isFresh then [Utf8.replacement] else [], ⟨mode, .plain, true⟩)
    | none =>
      let (before, s) := plainStep s.mode first
      let (after, s) := openStep s b
      (Utf8.replacement :: before ++ after, s)
  | _ => openStep s b

/-- What the end gives. -/
def escapeStop (s : EscapeState) : List Char :=
  match s.place with
  | .plain => []
  | .pair _ | .escape => [Utf8.replacement]
  | .sequence first =>
    Utf8.replacement ::
      match plainChar s.mode first with
      | some c => [c]
      | none => [Utf8.replacement]

/-- The reader of escape sequences. -/
def escapeReader : OctetReader EscapeState where
  start := ⟨.ascii, .plain, false⟩
  step := escapeStep
  stop := escapeStop

example : escapeReader.read [0x1B, 0x28, 0x49, 0x31, 0x1B, 0x28, 0x42, 0x41] = ['ｱ', 'A'] := by
  decide +kernel
example : escapeReader.read [0x1B, 0x28, 0x21] = [Utf8.replacement, '(', '!'] := by
  decide +kernel

end RailWatch.Text.Charset.Jis

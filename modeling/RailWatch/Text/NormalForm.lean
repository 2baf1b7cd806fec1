import RailWatch.Text.NormalForm.MarkClass
import RailWatch.Text.NormalForm.Parts
/-!
# RailWatch.Text.NormalForm

The composed normal form of a text: two texts that differ only in how their characters are put
together have the same one.

The text is taken apart as far as possible, marks that may stand in either order are put in order
of their classes, and then all that makes up a character is put together again. The syllables of
Hangul are made of their letters by counting.
-/

namespace RailWatch.Text.NormalForm

/-! ## Syllables of Hangul -/

/-- The first syllable. -/
def syllableBase : Nat := 0xAC00

/-- The first of the letters that start a syllable. -/
def leadBase : Nat := 0x1100

/-- The first of the vowels. -/
def vowelBase : Nat := 0x1161

/-- The code point before the first of the letters that end a syllable. -/
def tailBase : Nat := 0x11A7

/-- The number of letters that start a syllable. -/
def leadCount : Nat := 19

/-- The number of vowels. -/
def vowelCount : Nat := 21

/-- The number of ways to end a syllable. -/
def tailCount : Nat := 28

/-- The letters of a syllable. -/
def lettersOf? (n : Nat) : Option (List Char) :=
  if syllableBase ≤ n && n < syllableBase + leadCount * vowelCount * tailCount then
    let place := n - syllableBase
    let lead := Char.ofNat (leadBase + place / (vowelCount * tailCount))
    let vowel := Char.ofNat (vowelBase + place / tailCount % vowelCount)
    let tail := place % tailCount
    some ([lead, vowel] ++ if tail = 0 then [] else [Char.ofNat (tailBase + tail)])
  else none

/-- The syllable that two letters, or a syllable without an end and a letter, make up. -/
def syllable? (a b : Nat) : Option Char :=
  if leadBase ≤ a && a < leadBase + leadCount && vowelBase ≤ b && b < vowelBase + vowelCount then
    some (Char.ofNat
      (syllableBase + ((a - leadBase) * vowelCount + (b - vowelBase)) * tailCount))
  else if syllableBase ≤ a && a < syllableBase + leadCount * vowelCount * tailCount &&
      (a - syllableBase) % tailCount = 0 && tailBase < b && b < tailBase + tailCount then
    some (Char.ofNat (a + (b - tailBase)))
  else none

/-! ## Taking apart -/

/-- What a character is another way to write. -/
def variant? (c : Char) : Option (List Char) :=
  match spelledOut.lookup c.toNat with
  | some parts => some (parts.map Char.ofNat)
  | none => (variantRuns.lookup? c).map ([·])

/-- The number of steps that take any character apart. -/
def depth : Nat := 4

/-- A character taken apart, in at most so many steps. -/
def apart : Nat → Char → List Char
  | 0, c => [c]
  | n + 1, c =>
    match lettersOf? c.toNat, variant? c, pairs.lookup c.toNat with
    | some letters, _, _ => letters
    | none, some parts, _ => parts.flatMap (apart n)
    | none, none, some (a, b) => apart n (Char.ofNat a) ++ [Char.ofNat b]
    | none, none, none => [c]

/-! ## Order -/

/-- Puts a character of a class behind a text that is given last character first: a mark goes in
front of those of greater classes. -/
def put (c : Char) (markOf : Nat) : List Char → List Char
  | [] => [c]
  | last :: rest =>
    if markOf ≠ 0 && markOf < markClass last then last :: put c markOf rest else c :: last :: rest

/-- A text with its marks in order. -/
def ordered (s : List Char) : List Char :=
  (s.foldl (fun done c => put c (markClass c) done) []).reverse

/-! ## Putting together -/

/-- The character that two others make up. -/
def whole? (a b : Char) : Option Char :=
  match syllable? a.toNat b.toNat with
  | some c => some c
  | none =>
    (pairs.find? fun p => p.2.1 = a.toNat && p.2.2 = b.toNat).map fun p => Char.ofNat p.1

/-- A text that is being put together. -/
structure Draft where
  /-- What will not change any more, last character first. -/
  done : List Char
  /-- The character that the next ones may be put together with. -/
  base : Option Char
  /-- The marks behind it that stayed, last one first. -/
  marks : List Char

namespace Draft

/-- The text so far, last character first. -/
def text (d : Draft) : List Char :=
  d.marks ++ d.base.toList ++ d.done

/-- Whether a mark that stayed keeps a character of a class away from the base. -/
def blocks (d : Draft) (markOf : Nat) : Bool :=
  d.marks.head?.any fun last => markOf ≤ markClass last

/-- One more character. -/
def add (d : Draft) (c : Char) : Draft :=
  let markOf := markClass c
  match d.base, if d.blocks markOf then none else d.base.bind (whole? · c) with
  | _, some whole => { d with base := some whole }
  | some _, none =>
    if markOf = 0 then ⟨d.text, some c, []⟩ else { d with marks := c :: d.marks }
  | none, none => if markOf = 0 then { d with base := some c } else { d with done := c :: d.done }

end Draft

/-- The composed normal form of a text. -/
def compose (s : List Char) : List Char :=
  ((ordered (s.flatMap (apart depth))).foldl Draft.add ⟨[], none, []⟩).text.reverse

example : compose ['e', '\u0301'] = ['é'] := by decide +kernel
example : compose ['ệ', '\u0302'] = ['ệ', '\u0302'] := by decide +kernel
example : compose ['e', '\u0302', '\u0323'] = ['ệ'] := by decide +kernel
example : compose ['ᄒ', 'ᅡ', 'ᆫ'] = ['한'] := by decide +kernel

end RailWatch.Text.NormalForm

/-!
# RailWatch.Text.Blank

White space as Unicode has it: the characters of the `White_Space` property. Configuration
values are trimmed of it, and the fields of a date or a time of day may be preceded by it.
-/

namespace RailWatch.Text

/-- The ranges of the Unicode property `White_Space`. -/
def blankRanges : List (Nat × Nat) :=
  [(0x9, 0xD), (0x20, 0x20), (0x85, 0x85), (0xA0, 0xA0), (0x1680, 0x1680), (0x2000, 0x200A),
    (0x2028, 0x2029), (0x202F, 0x202F), (0x205F, 0x205F), (0x3000, 0x3000)]

/-- Whether `n` lies in one of the ranges, both ends included. -/
def inRanges (ranges : List (Nat × Nat)) (n : Nat) : Bool :=
  ranges.any fun r => r.1 ≤ n && n ≤ r.2

/-- White space in the sense of Unicode. -/
def isBlank (c : Char) : Bool :=
  inRanges blankRanges c.toNat

/-- The text without the white space it starts with. -/
def skipBlank (s : List Char) : List Char :=
  s.dropWhile isBlank

/-- The text without the white space at either end. -/
def trim (s : List Char) : List Char :=
  (skipBlank (skipBlank s).reverse).reverse

/-- A text that holds nothing but white space. -/
def isAllBlank (s : List Char) : Bool :=
  s.all isBlank

@[simp] theorem skipBlank_nil : skipBlank [] = [] := rfl

theorem skipBlank_cons (c : Char) (s : List Char) :
    skipBlank (c :: s) = if isBlank c then skipBlank s else c :: s := by
  simp only [skipBlank, List.dropWhile_cons]

/-- Skipping leaves nothing blank in front, so a second skip changes nothing. -/
@[simp] theorem skipBlank_skipBlank (s : List Char) : skipBlank (skipBlank s) = skipBlank s := by
  induction s with
  | nil => rfl
  | cons c s ih =>
    by_cases h : isBlank c <;> simp [skipBlank_cons, h, ih]

end RailWatch.Text

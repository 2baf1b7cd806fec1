import RailWatch.Text.Digits
import RailWatch.Url.Percent
/-!
# RailWatch.Url.Address

Numerical hosts: four octets with dots between them, or eight words of 16 bits with colons between
them.

The parts of an address of octets may be written in base eight, ten or sixteen, and the last part
fills all octets that are left. Of an address of words, one run of zeros may be left out where two
colons stand, and the last two words may be written as four octets.
-/

namespace RailWatch.Url.Address

open Text

/-- The parts of a text between separators. There is always at least one. -/
def splitAt (separator : Char → Bool) : List Char → List (List Char)
  | [] => [[]]
  | c :: rest =>
    if separator c then [] :: splitAt separator rest
    else
      match splitAt separator rest with
      | [] => [[c]]
      | part :: parts => (c :: part) :: parts

/-- The number that digits write in a base. -/
def numberInBase? (base : Nat) (s : List Char) : Option Nat :=
  s.foldlM
    (fun n c => (hexValue? c).bind fun d => if d < base then some (base * n + d) else none) 0

/-- A part of an address of octets: in base sixteen after `0x`, in base eight after `0`. -/
def octetPart? : List Char → Option Nat
  | [] => none
  | '0' :: 'x' :: rest | '0' :: 'X' :: rest => numberInBase? 16 rest
  | '0' :: c :: rest => numberInBase? 8 (c :: rest)
  | s => numberInBase? 10 s

/-- The labels of a name, without the empty one after a dot at the end. -/
def labels (s : List Char) : List (List Char) :=
  let parts := splitAt (· = '.') s
  if 1 < parts.length && parts.getLast? = some [] then parts.dropLast else parts

/-- A name that is meant as an address of octets. -/
def endsInNumber (s : List Char) : Bool :=
  match (labels s).getLast? with
  | some last => (!last.isEmpty && last.all isDigit) || (octetPart? last).isSome
  | none => false

/-- The number that an address of octets writes. -/
def octets? (s : List Char) : Option Nat := do
  let parts ← (labels s).mapM octetPart?
  let last ← parts.getLast?
  let front := parts.dropLast
  if parts.length ≤ 4 && front.all (· ≤ 255) && last < Nat.pow 256 (5 - parts.length) then
    some (front.zipIdx.foldl (fun n p => n + p.1 * Nat.pow 256 (3 - p.2)) last)
  else none

/-- An address of octets in the usual form. -/
def octetsText (n : Nat) : List Char :=
  (padded 1 (n / Nat.pow 256 3 % 256) ++ "." ++ padded 1 (n / Nat.pow 256 2 % 256) ++ "." ++
    padded 1 (n / 256 % 256) ++ "." ++ padded 1 (n % 256)).toList

/-- A word of an address of words. -/
def word? (s : List Char) : Option (List Nat) :=
  if s.isEmpty || 4 < s.length then none else (numberInBase? 16 s).map ([·])

/-- An octet in base ten, without needless zeros in front. -/
def plainOctet? (s : List Char) : Option Nat :=
  if s.isEmpty || !s.all isDigit || (s.head? = some '0' && 1 < s.length) then none
  else if natOfDigits s < 256 then some (natOfDigits s) else none

/-- The last two words of an address, written as four octets. -/
def dottedWords? (s : List Char) : Option (List Nat) := do
  match ← (splitAt (· = '.') s).mapM plainOctet? with
  | [a, b, c, d] => some [256 * a + b, 256 * c + d]
  | _ => none

/-- Words between colons. At the end of the address there may be octets. -/
def words? (isEnd : Bool) (s : List Char) : Option (List Nat) :=
  if s.isEmpty then some []
  else do
    let parts := splitAt (· = ':') s
    let last ← parts.getLast?
    let front ← parts.dropLast.mapM word?
    let back ← if isEnd && last.contains '.' then dottedWords? last else word? last
    return front.flatten ++ back

/-- The first place of two colons in a text, as what is before and after. -/
def splitGap? : List Char → Option (List Char × List Char)
  | ':' :: ':' :: rest => some ([], rest)
  | c :: rest => (splitGap? rest).map fun p => (c :: p.1, p.2)
  | [] => none

/-- The eight words of an address; two colons stand for all words that are missing. -/
def eightWords? (s : List Char) : Option (List Nat) :=
  match splitGap? s with
  | some (front, back) => do
    let front ← words? false front
    let back ← words? true back
    if front.length + back.length ≤ 7 then
      some (front ++ List.replicate (8 - front.length - back.length) 0 ++ back)
    else none
  | none => do
    let words ← words? true s
    if words.length = 8 then some words else none

/-- Place and length of the first of the longest runs of zeros in a list of words, counted from
`place`. -/
def longestRun (place : Nat) : List Nat → Nat × Nat
  | [] => (place, 0)
  | w :: rest =>
    let later := longestRun (place + 1) rest
    let here := ((w :: rest).takeWhile (· = 0)).length
    if later.2 ≤ here then (place, here) else later

/-- Words with colons between them. -/
def wordsText (words : List Nat) : List Char :=
  [':'].intercalate (words.map (Nat.toDigits 16))

/-- An address of words in the usual form, in square brackets. -/
def bracketsText (words : List Nat) : List Char :=
  let (place, size) := longestRun 0 words
  let inner :=
    if size < 2 then wordsText words
    else wordsText (words.take place) ++ [':', ':'] ++ wordsText (words.drop (place + size))
  ['['] ++ inner ++ [']']

/-- The address of words that a text in square brackets writes, in its usual form. -/
def brackets? (s : List Char) : Option (List Char) :=
  match s with
  | '[' :: inner =>
    if inner.getLast? = some ']' then (eightWords? inner.dropLast).map bracketsText else none
  | _ => none

example : (octets? "127.0x1".toList).map octetsText = some "127.0.0.1".toList := by decide
example : octets? "1.2.3.256".toList = none := by decide
example : brackets? "[1::0:0]".toList = some "[1::]".toList := by cbv
example : brackets? "[::1.2.3.4]".toList = some "[::102:304]".toList := by cbv
example : brackets? "[1.2.3.4::]".toList = none := by cbv

end RailWatch.Url.Address

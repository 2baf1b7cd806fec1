import RailWatch.Text.Alphanumeric
import RailWatch.Text.Digits
import RailWatch.Url.Percent
/-!
# RailWatch.Log.Pattern

Which texts are patterns for the value of a field.

A pattern is a number or a regular expression. Only its form is looked at here, not what it matches:
groups and sets of characters end where they must, what is repeated is there, and backslashes stand
before characters that have a meaning behind them. Words cannot be told apart by a pattern, so the
marks for the edges of words are refused, and so is looking ahead or back.
-/

namespace RailWatch.Pattern

open Text

/-! ## Numbers -/

/-- Whether a text is a number without a sign: a whole one, a fraction, one with an exponent, or the
name of one that is not finite. -/
def isUnsigned (s : List Char) : Bool :=
  if ["inf", "infinity", "nan"].any fun name => name.toList = s.map Char.toLower then true
  else
    let whole := spanDigits s
    let fraction :=
      match whole.2 with
      | '.' :: s => spanDigits s
      | s => ([], s)
    let exponent :=
      match fraction.2 with
      | [] => true
      | e :: '+' :: s | e :: '-' :: s | e :: s =>
        e.toLower = 'e' && !s.isEmpty && s.all isDigit
    !(whole.1 ++ fraction.1).isEmpty && exponent

/-! ## Characters behind a backslash -/

/-- What a backslash and the characters behind it stand for. -/
inductive Escaped
  /-- A single character. -/
  | char (c : Char)
  /-- A set of characters. -/
  | set
  /-- A place in a text. -/
  | place

/-- The letters behind a backslash that stand for control characters. -/
def controls : List (Char × Nat) :=
  [('a', 0x07), ('f', 0x0C), ('t', 0x09), ('n', 0x0A), ('r', 0x0D), ('v', 0x0B)]

/-- How many digits in base sixteen follow a letter for a character by its code. -/
def codeLetters : List (Char × Nat) := [('x', 2), ('u', 4), ('U', 8)]

/-- The letters of the general categories of characters. -/
def categories : List Char := ['c', 'l', 'm', 'n', 'p', 's', 'z']

/-- A character that a backslash leaves as it is: any of ASCII but letters, digits and angles. -/
def isPlainEscape (c : Char) : Bool :=
  c.toNat < 0x80 && !c.isAlphanum && c ≠ '<' && c ≠ '>'

/-- The character of a code in base sixteen, in so many digits. -/
def code? (count : Nat) (s : List Char) : Option Char := do
  let digits ← (s.take count).mapM Url.hexValue?
  let n := digits.foldl (fun n d => 16 * n + d) 0
  if h : digits.length = count ∧ n.isValidChar then some (Char.ofNatAux n h.2) else none

/-- What stands behind a backslash, and what follows it. -/
def escaped? (s : List Char) : Option (Escaped × List Char) :=
  match s with
  | [] => none
  | c :: rest =>
    if isPlainEscape c then some (.char c, rest)
    else if ['d', 's', 'w'].contains c.toLower then some (.set, rest)
    else if c = 'A' || c = 'z' then some (.place, rest)
    else if c.toLower = 'p' then
      match rest with
      | category :: rest =>
        if categories.contains category.toLower then some (.set, rest) else none
      | [] => none
    else
      match codeLetters.lookup c, controls.lookup c with
      | some count, _ => (code? count rest).map fun c => (.char c, rest.drop count)
      | none, some n => some (.char (Char.ofNat n), rest)
      | none, none => none

/-! ## Sets of characters -/

/-- The names of sets between colons. -/
def setNames : List String :=
  ["alnum", "alpha", "ascii", "blank", "cntrl", "digit", "graph", "lower", "print", "punct",
    "space", "upper", "word", "xdigit"]

/-- What follows a set that is named between colons, behind its opening bracket. -/
def namedSet? (s : List Char) : Option (List Char) :=
  match s with
  | ':' :: s =>
    let s := if s.head? = some '^' then s.drop 1 else s
    let name := s.takeWhile (· ≠ ':')
    match s.drop name.length with
    | ':' :: ']' :: rest => if setNames.any (·.toList = name) then some rest else none
    | _ => none
  | _ => none

/-- What follows the front of a set, behind its opening bracket: a sign that turns the set around,
and hyphens or else a bracket, which stand for themselves there. -/
def setFront (s : List Char) : List Char :=
  let s := if s.head? = some '^' then s.drop 1 else s
  match s with
  | ']' :: rest => rest
  | s => s.dropWhile (· = '-')

/-- A member of a set, and what follows it. Places are none. -/
def member? (s : List Char) : Option (Option Char × List Char) :=
  match s with
  | [] => none
  | '\\' :: s =>
    match escaped? s with
    | some (.char c, rest) => some (some c, rest)
    | some (.set, rest) => some (none, rest)
    | some (.place, _) | none => none
  | c :: rest => some (some c, rest)

/-- What follows the end of a set inside so many others, reading at most so many members. -/
def setEnd? : Nat → Nat → List Char → Option (List Char)
  | 0, _, _ => none
  | n + 1, depth, s =>
    match s with
    | [] => none
    | ']' :: rest =>
      match depth with
      | 0 => some rest
      | depth + 1 => setEnd? n depth rest
    | '[' :: rest =>
      match namedSet? rest with
      | some rest => setEnd? n depth rest
      | none => setEnd? n (depth + 1) (setFront rest)
    | '&' :: '&' :: rest | '-' :: '-' :: rest | '~' :: '~' :: rest => setEnd? n depth rest
    | s => do
      let (first, rest) ← member? s
      match rest with
      | '-' :: next :: others =>
        if next = ']' || next = '-' then setEnd? n depth rest
        else
          let (last, rest) ← member? (next :: others)
          if (← first) ≤ (← last) then setEnd? n depth rest else none
      | rest => setEnd? n depth rest

/-! ## Groups -/

/-- A character that the name of a group can have, at its front or later. -/
def isNameChar (isFirst : Bool) (c : Char) : Bool :=
  c = '_' || if isFirst then isAlphanumeric c && !isDigit c
    else isAlphanumeric c || ['.', '[', ']'].contains c

/-- What follows the name of a group. -/
def nameEnd? (s : List Char) : Option (List Char) :=
  let name := s.takeWhile (· ≠ '>')
  match name, s.drop name.length with
  | first :: later, _ :: rest =>
    if isNameChar true first && later.all (isNameChar false) then some rest else none
  | _, _ => none

/-- Whether the letters of a group set or unset flags, each once. -/
def areFlags (s : List Char) : Bool :=
  let letters := s.filter (· ≠ '-')
  letters.all ['i', 'm', 's', 'U', 'u', 'R', 'x'].contains && letters.eraseDups = letters &&
    s.count '-' ≤ 1 && s.getLast? ≠ some '-'

/-- What follows the front of a group, and whether there is a group and not just flags. -/
def group? (s : List Char) : Option (Bool × List Char) :=
  match s with
  | '?' :: 'P' :: '<' :: s => (nameEnd? s).map (true, ·)
  | '?' :: '<' :: s =>
    if s.head? = some '=' || s.head? = some '!' then none else (nameEnd? s).map (true, ·)
  | '?' :: s =>
    let flags := s.takeWhile fun c => c ≠ ':' && c ≠ ')'
    match s.drop flags.length with
    | ':' :: rest => if areFlags flags then some (true, rest) else none
    | ')' :: rest => if areFlags flags && !flags.isEmpty then some (false, rest) else none
    | _ => none
  | s => some (true, s)

/-! ## Patterns -/

/-- Whether a text is the rest of a regular expression inside so many groups, in at most so many
steps. What stands before it may be something that can be repeated. -/
def isRest : Nat → Nat → Bool → List Char → Bool
  | 0, _, _, _ => false
  | n + 1, depth, canRepeat, s =>
    match s with
    | [] => depth = 0
    | '(' :: s =>
      match group? s with
      | some (true, rest) => isRest n (depth + 1) false rest
      | some (false, rest) => isRest n depth false rest
      | none => false
    | ')' :: rest =>
      match depth with
      | 0 => false
      | depth + 1 => isRest n depth true rest
    | '|' :: rest => isRest n depth false rest
    | '[' :: s =>
      match setEnd? (s.length + 1) 0 (setFront s) with
      | some rest => isRest n depth true rest
      | none => false
    | '\\' :: s =>
      match escaped? s with
      | some (_, rest) => isRest n depth true rest
      | none => false
    | c :: rest =>
      if c = '?' || c = '*' || c = '+' then
        canRepeat && isRest n depth true (if rest.head? = some '?' then rest.drop 1 else rest)
      else c ≠ Char.ofNat 0x7B && isRest n depth true rest

/-- Whether a text is a pattern. -/
def isPattern (s : List Char) : Bool :=
  (s.head? = some '+' && isUnsigned (s.drop 1)) || isRest (s.length + 1) 0 false s

example : isPattern "(?i)a*|[^]a-z\\d]+\\.?".toList = true := by decide +kernel
example : isPattern "+1.5e3".toList = true := by decide +kernel
example : isPattern "*".toList = false := by decide +kernel
example : isPattern "(a".toList = false := by decide +kernel
example : isPattern "[z-a]".toList = false := by decide +kernel
example : isPattern "a\\".toList = false := by decide +kernel

end RailWatch.Pattern

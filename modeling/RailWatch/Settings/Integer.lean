import RailWatch.Text.Digits
/-!
# RailWatch.Settings.Integer

Whole numbers in settings.

A number is a run of digits, after a sign if one is wanted. A minus sign is only allowed where
negative numbers are. The digits are read from left to right and the first thing wrong decides:
a character that is no digit, or the digit with which the number leaves the range of its type.
-/

namespace RailWatch

open Text

/-- Why a text is no number. -/
inductive IntegerError
  | empty
  | notADigit
  | tooLarge
  | tooSmall
deriving DecidableEq

/-- The reason in words. -/
def IntegerError.message : IntegerError → String
  | empty => "cannot parse integer from empty string"
  | notADigit => "invalid digit found in string"
  | tooLarge => "number too large to fit in target type"
  | tooSmall => "number too small to fit in target type"

/-- The range of a whole number of some bits, with or without negative numbers. -/
structure IntegerType where
  /-- The greatest absolute value of a negative number. -/
  down : Nat
  /-- The greatest number. -/
  up : Nat
deriving DecidableEq

namespace IntegerType

/-- Unsigned numbers of 64 bits. -/
def unsigned64 : IntegerType := ⟨0, 18446744073709551615⟩

/-- Signed numbers of 64 bits. -/
def signed64 : IntegerType := ⟨9223372036854775808, 9223372036854775807⟩

/-- Digits with `n` already read, up to `limit`. -/
def readUpTo (limit : Nat) (excess : IntegerError) : Nat → List Char → Except IntegerError Nat
  | n, [] => .ok n
  | n, c :: rest =>
    if isDigit c then
      let n := 10 * n + digitValue c
      if limit < n then .error excess else readUpTo limit excess n rest
    else .error .notADigit

/-- The absolute value of a number, of which there is at least one digit. -/
def readMagnitude (limit : Nat) (excess : IntegerError) (s : List Char) :
    Except IntegerError Nat :=
  if s.isEmpty then .error .notADigit else readUpTo limit excess 0 s

/-- The number that a text writes. -/
def read (t : IntegerType) (s : List Char) : Except IntegerError Int :=
  match s with
  | [] => .error .empty
  | '+' :: rest => (readMagnitude t.up .tooLarge rest).map Int.ofNat
  | '-' :: rest =>
    if t.down = 0 then .error .notADigit
    else (readMagnitude t.down .tooSmall rest).map fun (n : Nat) => -(n : Int)
  | s => (readMagnitude t.up .tooLarge s).map Int.ofNat

example : unsigned64.read "+007".toList = .ok 7 := by rfl
example : unsigned64.read "-1".toList = .error .notADigit := by rfl
example : signed64.read "-9223372036854775808".toList = .ok (-9223372036854775808) := by rfl
example : signed64.read "9223372036854775808x".toList = .error .tooLarge := by rfl
example : signed64.read "+".toList = .error .notADigit := by rfl

end IntegerType
end RailWatch

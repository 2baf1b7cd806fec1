/-!
# RailWatch.Text.Digits

Decimal digits, read and written. Only the ten ASCII digits count as digits: the other decimal
digits of Unicode are letters like any other to every reader of this library.
-/

namespace RailWatch.Text

/-- One of the ten ASCII digits. -/
def isDigit (c : Char) : Bool :=
  '0' ≤ c && c ≤ '9'

/-- The value of a digit. -/
def digitValue (c : Char) : Nat :=
  c.toNat - 48

/-- The number that a run of digits writes in base ten, most significant first. -/
def natOfDigits (ds : List Char) : Nat :=
  ds.foldl (fun n c => 10 * n + digitValue c) 0

/-- The digits of `n`, without leading zeros. -/
def digitsOf (n : Nat) : List Char :=
  Nat.toDigits 10 n

/-- `n` in base ten, filled up on the left with zeros to at least `width` digits. -/
def padded (width n : Nat) : String :=
  let ds := digitsOf n
  String.ofList (List.replicate (width - ds.length) '0' ++ ds)

/-- `n` in base ten with a minus sign if it is negative. -/
def intText : Int → String
  | .ofNat n => padded 1 n
  | .negSucc n => "-" ++ padded 1 (n + 1)

/-- The longest run of digits in front, and what follows it. -/
def spanDigits (s : List Char) : List Char × List Char :=
  (s.takeWhile isDigit, s.dropWhile isDigit)

@[simp] theorem natOfDigits_nil : natOfDigits [] = 0 := rfl

/-- Nothing is lost between the digits and the rest. -/
theorem spanDigits_append (s : List Char) : (spanDigits s).1 ++ (spanDigits s).2 = s :=
  List.takeWhile_append_dropWhile

/-- The first part of a split holds digits only. -/
theorem spanDigits_all (s : List Char) : (spanDigits s).1.all isDigit = true := by
  induction s with
  | nil => rfl
  | cons c s ih =>
    by_cases h : isDigit c = true
    · simp [spanDigits, h]
    · simp [spanDigits, h]

end RailWatch.Text

import RailWatch.Text.Utf8
/-!
# RailWatch.Text.Charset.OctetReader

Readers that take octets one by one and give characters as soon as they know them.

What a reader has to keep in mind between two octets is its state. The **pair readers** are those
of charsets whose characters take one or two octets: when a pair is no character, its second octet
is read again if it is one of ASCII, so that no markup is swallowed.
-/

namespace RailWatch.Text.Charset

/-- A reader of octets with a state. -/
structure OctetReader (State : Type) where
  start : State
  /-- What an octet gives in a state, and the state after it. -/
  step : State → UInt8 → List Char × State
  /-- What the end gives in a state. -/
  stop : State → List Char

/-- The text that a reader makes of octets. -/
def OctetReader.read {State : Type} (r : OctetReader State) (octets : List UInt8) : List Char :=
  let (given, state) := octets.foldl
    (fun (given, state) b =>
      let (chars, state) := r.step state b
      (chars.reverse ++ given, state))
    ([], r.start)
  given.reverse ++ r.stop state

/-- The character that an octet is by itself in ASCII. -/
def asciiChar? (b : UInt8) : Option Char :=
  if b < 0x80 then some (Char.ofNat b.toNat) else none

/-- What is given for octets that are no character, when the last of them is `b`. -/
def strayPair (b : UInt8) : List Char :=
  Utf8.replacement :: (asciiChar? b).toList

/-- The reader of a charset whose characters take one or two octets. Its state is the first octet of
a pair. -/
def pairReader (single : UInt8 → Option Char) (isLead : UInt8 → Bool)
    (pair : UInt8 → UInt8 → Option (List Char)) : OctetReader (Option UInt8) where
  start := none
  step
    | none, b =>
      match single b with
      | some c => ([c], none)
      | none => if isLead b then ([], some b) else ([Utf8.replacement], none)
    | some lead, b =>
      match pair lead b with
      | some chars => (chars, none)
      | none => (strayPair b, none)
  stop lead := if lead.isSome then [Utf8.replacement] else []

/-- A charset of one pair. -/
def sample : OctetReader (Option UInt8) :=
  pairReader asciiChar? (· = 0x81) fun _ b => if b = 0x81 then some ['!'] else none

example : sample.read [0x41, 0x81, 0x81, 0x81] = ['A', '!', Utf8.replacement] := by decide
example : sample.read [0x81, 0x42, 0x81, 0xFF] =
    [Utf8.replacement, 'B', Utf8.replacement] := by decide

end RailWatch.Text.Charset

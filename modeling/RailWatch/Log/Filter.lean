import RailWatch.Log
import RailWatch.Log.Pattern
import RailWatch.Settings.Integer
import RailWatch.Text.Alphanumeric
/-!
# RailWatch.Log.Filter

Which records are written.

A filter is a list of **directives**, written with commas between them. A directive gives a level to
everything or to the targets that begin with a text. In square brackets it may name a span, and in
braces in them a field: then it is only for records inside such a span, or for records that have
such a field. No record is inside a span, and the values of fields are only looked at on spans, so
directives for either fit nothing; the value must be a pattern all the same.

Of the directives that fit a record, the one with the longest text decides, and among those one
that names a field. What no directive fits is not written.
-/

namespace RailWatch

open Text

/-- One rule of a filter: which records it is for, and the least important rank that is written.
Rank zero writes nothing. -/
structure Directive where
  /-- The beginning of the targets; nothing if it is for all of them. -/
  target : Option String
  /-- The name of a field that a record must have. -/
  field : Option String
  /-- Whether it is only for what happens inside spans. -/
  inSpan : Bool
  rank : Nat
deriving DecidableEq

/-- Which records are written. -/
structure LogFilter where
  directives : List Directive
deriving DecidableEq

namespace Directive

/-- The ranks by name. -/
def rankNames : List (String × Nat) :=
  [("off", 0), ("error", 1), ("warn", 2), ("info", 3), ("debug", 4), ("trace", 5)]

/-- The rank that a text writes, as a number or as a name of any case. -/
def rank? (s : List Char) : Option Nat :=
  match IntegerType.unsigned64.read s with
  | .ok n => if n ≤ 5 then some n.toNat else none
  | .error _ =>
    (rankNames.find? fun entry => entry.1.toList = s.map Char.toLower).map (·.2)

/-- A character that a target or a level can start with. -/
def isStart (c : Char) : Bool :=
  isAlphanumeric c || c = '-' || c = ':' || c = '_'

/-- What opens the name of a field. -/
def openBrace : Char := Char.ofNat 0x7B

/-- What closes it. -/
def closeBrace : Char := Char.ofNat 0x7D

/-- A piece of a text, as the places of its first octet and of the octet behind it. -/
structure Piece where
  start : Nat
  stop : Nat

/-- The pieces of a directive. -/
structure Layout where
  target : Option Piece
  span : Option Piece
  field : Option Piece
  /-- Where the level starts, which ends with the text. -/
  level : Option Nat

/-- The piece of characters that starts at a place. -/
def pieceAt (start : Nat) (s : List Char) : Piece :=
  ⟨start, start + Utf8.byteLength s⟩

/-- A layout with the level that follows at a place, if one follows. -/
def withLevel? (l : Layout) (place : Nat) : List Char → Option Layout
  | [] => some l
  | '=' :: _ => some { l with level := some (place + 1) }
  | _ => none

/-- The layout of a directive whose brackets open just before `s`, which starts at `place`. -/
def brackets? (target : Option Piece) (place : Nat) (s : List Char) : Option Layout :=
  let name := s.takeWhile fun c => c ≠ ']' && c ≠ openBrace
  let span := pieceAt place name
  match s.drop name.length with
  | [] => none
  | c :: s =>
    if c = ']' then withLevel? ⟨target, some span, none, none⟩ (span.stop + 1) s
    else
      let text := s.takeWhile (· ≠ closeBrace)
      let field := pieceAt (span.stop + 1) text
      match s.drop text.length with
      | _ :: ']' :: s =>
        if text.isEmpty then none
        else
          let span := if name.isEmpty then none else some span
          withLevel? ⟨target, span, some field, none⟩ (field.stop + 2) s
      | _ => none

/-- The layout of a directive that is more than a target or a level by itself; none in the inner
option for one that is not more, and none at all for a text that is no directive. -/
def layout? (s : List Char) : Option (Option Layout) :=
  match s with
  | [] => none
  | '[' :: rest => (brackets? none 1 rest).map some
  | c :: _ =>
    if isStart c then
      let name := s.takeWhile fun c => c ≠ '=' && c ≠ '['
      let target := pieceAt 0 name
      match s.drop name.length with
      | [] => some none
      | '[' :: rest => (brackets? (some target) (target.stop + 1) rest).map some
      | rest => (withLevel? ⟨some target, none, none, none⟩ target.stop rest).map some
    else none

/-- The octets of a text in a piece, as a text. -/
def Piece.of (s : List Char) (p : Piece) : List Char :=
  Utf8.decodeLossy (((Utf8.encode s).take p.stop).drop p.start)

/-- The rank of the level that starts at a place; all ranks if there is no level. -/
def rankAt? (s : List Char) : Option Nat → Option Nat
  | none => some Level.trace.rank
  | some place =>
    match Utf8.decodeLossy ((Utf8.encode s).drop place) with
    | [] => some Level.trace.rank
    | level => rank? level

/-- The directive that a text writes. Blanks at its ends are left out when its pieces are looked
for, but the pieces are then taken from the text as it stands. A target by itself is written in
full. -/
def read? (s : List Char) : Option Directive := do
  match ← layout? (trim s) with
  | none =>
    match rank? s with
    | some rank => return ⟨none, none, false, rank⟩
    | none => return ⟨some (String.ofList s), none, false, Level.trace.rank⟩
  | some l =>
    let rank ← rankAt? s l.level
    let parts := (l.field.map (Piece.of s)).map (·.splitOn '=')
    let value? := parts.bind (·[1]?)
    if value?.all Pattern.isPattern then
      return ⟨l.target.map fun p => String.ofList (p.of s),
        (parts.bind (·.head?)).map String.ofList, l.span.isSome || value?.isSome, rank⟩
    else none

/-- How special a directive is: the length of the text that it is for, counted from one on, and zero
if it is for everything. -/
def specificity (d : Directive) : Nat :=
  match d.target with
  | none => 0
  | some t => t.utf8ByteSize + 1

/-- Whether a directive gives way to a later one that fits the same record. -/
def givesWay (earlier later : Directive) : Bool :=
  if specificity earlier ≠ specificity later then specificity earlier < specificity later
  else
    match earlier.field, later.field with
    | none, _ => true
    | some _, none => false
    | some a, some b => !(b < a)

/-- The names of the fields of a record; its message is one of them. -/
def fieldNames (r : LogRecord) : List String :=
  "message" :: r.fields.map (·.name)

/-- Whether a directive is for a record. -/
def fits (d : Directive) (r : LogRecord) : Bool :=
  !d.inSpan && (d.target.all fun t => t.toList.isPrefixOf r.target.toList) &&
    d.field.all (fieldNames r).contains

end Directive

namespace LogFilter

/-- The parts of a text between commas. -/
def splitCommas : List Char → List (List Char)
  | [] => [[]]
  | c :: rest =>
    if c = ',' then [] :: splitCommas rest
    else
      match splitCommas rest with
      | [] => [[c]]
      | part :: parts => (c :: part) :: parts

/-- The filter for everything up to a level. -/
def upTo (level : Level) : LogFilter := ⟨[⟨none, none, false, level.rank⟩]⟩

/-- The filter that a text writes. Without a single directive nothing is written. -/
def read? (s : List Char) : Option LogFilter := do
  let directives ← ((splitCommas s).filter fun part => !part.isEmpty).mapM Directive.read?
  return ⟨directives⟩

/-- The filter of a setting; what cannot be read counts as not set. -/
def ofSetting (setting : Option String) : LogFilter :=
  (setting.bind fun s => read? s.toList).getD (upTo .info)

/-- The directive that decides for a record. -/
def deciding? (f : LogFilter) (r : LogRecord) : Option Directive :=
  (f.directives.filter (·.fits r)).foldl
    (fun best d =>
      match best with
      | some b => if b.givesWay d then some d else some b
      | none => some d)
    none

/-- Whether a record is written. -/
def allows (f : LogFilter) (r : LogRecord) : Bool :=
  (f.deciding? r).any fun d => r.level.rank ≤ d.rank

example : read? "a::b=warn,off".toList =
    some ⟨[⟨some "a::b", none, false, 2⟩, ⟨none, none, false, 0⟩]⟩ := by decide +kernel
example : read? "a[s]=1".toList = some ⟨[⟨some "a", none, true, 1⟩]⟩ := by decide +kernel
example : read? " warn".toList = some ⟨[⟨some " warn", none, false, 5⟩]⟩ := by decide +kernel
example : read? "a=b=c".toList = none := by decide +kernel
example : read? "[\x7ba=*\x7d]".toList = none := by decide +kernel

end LogFilter
end RailWatch

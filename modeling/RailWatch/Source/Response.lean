import RailWatch.Text.Digits
import RailWatch.Text.MediaType
import RailWatch.Url.Percent
/-!
# RailWatch.Source.Response

What a web server answers, read from the octets that it sends.

A response is a line with a status, the fields of its head with a line for each, an empty line and a
body. How far the body goes, its **extent**, follows from status and fields: a number of octets,
chunks that each say how long they are, or all octets up to the end. A response that only announces
another one is passed over, and the next one starts right behind its head.
-/

namespace RailWatch

open Text

/-- A field of the head of a response: its name in small letters and its value, with a character for
each octet. -/
structure HeadField where
  name : List Char
  value : List Char
deriving DecidableEq

/-- How far the body of a response goes. -/
inductive Extent
  /-- So many octets. -/
  | octets (count : Nat)
  /-- Chunks, up to one without octets. -/
  | chunks
  /-- All octets that are sent. -/
  | toEnd
deriving DecidableEq

/-- What a server answers to a request. -/
structure Response where
  status : Nat
  fields : List HeadField
  extent : Extent
  /-- The octets that are sent behind the head. -/
  sent : List UInt8
deriving DecidableEq

namespace Response

/-! ## Lines -/

/-- The octet that ends a line. -/
def lineFeed : UInt8 := 0x0A

/-- The octet that may stand before the end of a line. -/
def carriageReturn : UInt8 := 0x0D

/-- A character that may stand on a line of a head. -/
def isHeadChar (c : Char) : Bool :=
  (0x1F < c.toNat && c.toNat ≠ 0x7F) || c = '\t'

/-- The characters of octets, one for each. -/
def charsOf (octets : List UInt8) : List Char :=
  octets.map fun b => Char.ofNat b.toNat

/-- The line in front and the octets behind it, if the line ends and may stand in a head. -/
def line? (octets : List UInt8) : Option (List Char × List UInt8) :=
  let line := octets.takeWhile (· ≠ lineFeed)
  match octets.drop line.length with
  | [] => none
  | _ :: rest =>
    let text := charsOf (if line.getLast? = some carriageReturn then line.dropLast else line)
    if text.all isHeadChar then some (text, rest) else none

/-- The octets behind empty lines. -/
def skipEmptyLines : List UInt8 → List UInt8
  | 0x0A :: rest => skipEmptyLines rest
  | 0x0D :: 0x0A :: rest => skipEmptyLines rest
  | octets => octets

/-! ## Heads -/

/-- A character between two parts of a line. -/
def isGap (c : Char) : Bool :=
  c = ' ' || c = '\t'

/-- A text without the gaps at its ends. -/
def trimGaps (s : List Char) : List Char :=
  ((s.dropWhile isGap).reverse.dropWhile isGap).reverse

/-- The status on the first line of a response. -/
def status? (line : List Char) : Option Nat :=
  if ["HTTP/1.0 ", "HTTP/1.1 "].any fun v => v.toList.isPrefixOf line then
    let rest := line.drop 9
    let digits := rest.take 3
    let status := natOfDigits digits
    if digits.all isDigit && 100 ≤ status && (rest.drop 3).head?.all (· = ' ') then some status
    else none
  else none

/-- The field on a line. -/
def field? (line : List Char) : Option HeadField :=
  match MediaType.token? line with
  | some (name, ':' :: value) => some ⟨name.map Char.toLower, trimGaps value⟩
  | _ => none

/-- The greatest number of fields in a head. -/
def maxFields : Nat := 100

/-- The fields on lines up to an empty one, at most so many lines, and the octets behind it. -/
def fields? : Nat → List UInt8 → Option (List HeadField × List UInt8)
  | 0, _ => none
  | n + 1, octets => do
    let (line, rest) ← line? octets
    if line.isEmpty then return ([], rest)
    else
      let field ← field? line
      let (fields, rest) ← fields? n rest
      return (field :: fields, rest)

/-- The values of the fields of a name, in their order. -/
def values (fields : List HeadField) (name : String) : List (List Char) :=
  (fields.filter fun f => f.name = name.toList).map (·.value)

/-! ## Extents -/

/-- The status of a change to another protocol. -/
def protocolChange : Nat := 101

/-- A status that announces another response. -/
def isInterim (status : Nat) : Bool :=
  status < 200 && status ≠ protocolChange

/-- A status that comes without a body. -/
def isBodiless (status : Nat) : Bool :=
  status < 200 || status = 204 || status = 304

/-- The greatest length of a body that can be announced. -/
def maxLength : Nat := Nat.pow 2 64 - 3

/-- The parts of the values of a field between commas. -/
def parts (values : List (List Char)) : List (List Char) :=
  values.flatMap fun v => (v.splitOn ',').map trimGaps

/-- The length that a text announces. -/
def number? (s : List Char) : Option Nat :=
  if !s.isEmpty && s.all isDigit && natOfDigits s ≤ maxLength then some (natOfDigits s) else none

/-- The one length that all values of a field announce. -/
def length? (values : List (List Char)) : Option Nat := do
  match ← (parts values).mapM number? with
  | n :: others => if others.all (· = n) then some n else none
  | [] => none

/-- Whether codings of a body end with the one that makes chunks of it. -/
def isChunked (codings : List (List Char)) : Bool :=
  codings.getLast?.any fun c =>
    c.all (·.toNat < 0x80) && (parts [c]).getLast?.any (·.map Char.toLower = "chunked".toList)

/-- The extent of the body of a response. There is none if its length cannot be told. -/
def extent? (status : Nat) (fields : List HeadField) : Option Extent :=
  if isBodiless status then some (.octets 0)
  else
    match values fields "transfer-encoding", values fields "content-length" with
    | [], [] => some .toEnd
    | [], lengths => (length? lengths).map .octets
    | codings, _ => some (if isChunked codings then .chunks else .toEnd)

/-- The response in front of octets, behind at most so many that announce another one. -/
def readWithin? : Nat → List UInt8 → Option Response
  | 0, _ => none
  | n + 1, octets => do
    let (line, rest) ← line? (skipEmptyLines octets)
    let status ← status? line
    let (fields, rest) ← fields? (maxFields + 1) rest
    if isInterim status then readWithin? n rest
    else return ⟨status, fields, ← extent? status fields, rest⟩

/-- The response that octets are, if they are one. -/
def read? (octets : List UInt8) : Option Response :=
  readWithin? octets.length octets

/-! ## Bodies -/

/-- The octets up to the end of a line that takes two octets, and those behind it. -/
def strictLine? (octets : List UInt8) : Option (List UInt8 × List UInt8) :=
  let line := octets.takeWhile (· ≠ carriageReturn)
  match octets.drop line.length with
  | _ :: 0x0A :: rest => some (line, rest)
  | _ => none

/-- The number of octets of a chunk, from its first line. What follows a semicolon does not
matter. -/
def chunkSize? (line : List UInt8) : Option Nat :=
  let text := charsOf line
  let digits := text.takeWhile fun c => (Url.hexValue? c).isSome
  let size := digits.foldl (fun n c => 16 * n + (Url.hexValue? c).getD 0) 0
  let note := (text.drop digits.length).dropWhile isGap
  if digits.isEmpty || Nat.pow 2 64 ≤ size || note.contains '\n' || !note.head?.all (· = ';') then
    none
  else some size

/-- Whether fields follow the last chunk as they may, at most so many lines. -/
def endsWell : Nat → List UInt8 → Bool
  | 0, _ => false
  | n + 1, octets =>
    match strictLine? octets with
    | some ([], _) => true
    | some (line, rest) =>
      (charsOf line).all isHeadChar && (field? (charsOf line)).isSome && endsWell n rest
    | none => false

/-- The octets of chunks, at most so many. -/
def chunks? : Nat → List UInt8 → Option (List UInt8)
  | 0, _ => none
  | n + 1, octets => do
    let (line, rest) ← strictLine? octets
    let size ← chunkSize? line
    if size = 0 then
      if endsWell (rest.length + 1) rest then some [] else none
    else if rest.length < size then none
    else
      match rest.drop size with
      | 0x0D :: 0x0A :: others => return rest.take size ++ (← chunks? n others)
      | _ => none

/-- The octets of the body, if all of it came. -/
def body? (r : Response) : Option (List UInt8) :=
  match r.extent with
  | .octets n => if r.sent.length < n then none else some (r.sent.take n)
  | .chunks => chunks? (r.sent.length + 1) r.sent
  | .toEnd => some r.sent

/-- The charset of the body. -/
def charset (r : Response) : Charset :=
  MediaType.charset (values r.fields "content-type").head?

/-- The body as text, if all of it came. -/
def text? (r : Response) : Option String :=
  r.body?.map fun octets => String.ofList (r.charset.decode octets)

/-- A status that says that all is well. -/
def isSuccess (r : Response) : Bool :=
  200 ≤ r.status && r.status < 300

example : read? (Utf8.encode "HTTP/1.1 404\nContent-Length: 1, 1\r\n\r\nab".toList) =
    some ⟨404, [⟨"content-length".toList, "1, 1".toList⟩], .octets 1, [0x61, 0x62]⟩ := by
  decide +kernel
example : (read? (Utf8.encode "HTTP/1.1 100 \r\n\r\n\nHTTP/1.1 204 x\r\n\r\n".toList)).map
    (·.status) = some 204 := by decide +kernel
example : read? (Utf8.encode "HTTP/1.1 200\r\nContent-Length: -1\r\n\r\n".toList) = none := by
  decide +kernel
example : chunks? 3 (Utf8.encode "2;x\r\nab\r\n01 \r\nc\r\n0\r\nq:\r\n\r\n".toList) =
    some [0x61, 0x62, 0x63] := by decide +kernel
example : chunks? 3 (Utf8.encode "2\r\nabc\r\n0\r\n\r\n".toList) = none := by decide +kernel

end Response
end RailWatch

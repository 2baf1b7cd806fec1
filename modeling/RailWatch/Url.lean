import RailWatch.Url.Host
/-!
# RailWatch.Url

Addresses, read the way browsers read them.

`Url.read?` takes an absolute address apart and writes each part in its usual form. Blanks at either
end are dropped, and so are tabs and line breaks anywhere. What is done depends on the kind of the
scheme. An address of one of the schemes of the **web** always has a host; in it a backslash
separates like a slash, and the slashes before the host may be any number. In an address of a
**file** the backslash separates too, the host may be missing, and the letter of a drive may stand
at the front of the path. In any **other** address two slashes announce a host, and a path without
a slash in front is a text of its own.

Dots as path segments are resolved, and what a part cannot hold is percent-encoded; a percent sign
is left as it is.
-/

namespace RailWatch

open Text Url

/-- What is behind the host of an address. -/
inductive UrlPath
  /-- Segments, each after a slash. -/
  | segments (parts : List (List Char))
  /-- A text that has no parts. -/
  | whole (text : List Char)
deriving DecidableEq

/-- The path in words. -/
def UrlPath.text : UrlPath → List Char
  | segments parts => parts.flatMap ('/' :: ·)
  | whole text => text

/-- An address, each part in its usual form. -/
structure Url where
  scheme : List Char
  /-- The name of the user, which is empty if there is none. -/
  user : List Char
  password : Option (List Char)
  /-- The host, which may be empty where the scheme is not one of the web. -/
  host : Option (List Char)
  /-- The port, unless it is the usual one of the scheme. -/
  port : Option Nat
  path : UrlPath
  query : Option (List Char)
  fragment : Option (List Char)
deriving DecidableEq

namespace Url

/-- What the scheme says about the rest of an address. -/
inductive Kind
  | web
  | file
  | other
deriving DecidableEq

/-- The usual port of a scheme of the web. -/
def webPort? (scheme : List Char) : Option Nat :=
  ([("http", 80), ("https", 443), ("ws", 80), ("wss", 443), ("ftp", 21)].find? fun p =>
    p.1.toList = scheme).map (·.2)

/-- The kind of a scheme. -/
def Kind.ofScheme (scheme : List Char) : Kind :=
  if (webPort? scheme).isSome then web else if scheme = "file".toList then file else other

/-! ## Characters and texts -/

/-- A blank or a control character. -/
def isEdge (c : Char) : Bool := c.toNat ≤ 0x20

/-- A tab or a line break. -/
def isDropped (c : Char) : Bool := c = '\t' || c = '\n' || c = '\r'

/-- An address without what is ignored in it. -/
def clean (s : List Char) : List Char :=
  ((((s.dropWhile isEdge).reverse).dropWhile isEdge).reverse).filter fun c => !isDropped c

/-- A letter of ASCII. -/
def isLetter (c : Char) : Bool :=
  ('a' ≤ c && c ≤ 'z') || ('A' ≤ c && c ≤ 'Z')

/-- A character that a scheme may have after its first letter. -/
def isSchemeChar (c : Char) : Bool :=
  isLetter c || isDigit c || c = '+' || c = '-' || c = '.'

/-- The scheme of an absolute address, in lower case, and what follows its colon. -/
def splitScheme? (s : List Char) : Option (List Char × List Char) :=
  match s with
  | [] => none
  | c :: _ =>
    if isLetter c then
      match s.dropWhile isSchemeChar with
      | ':' :: rest => some ((s.takeWhile isSchemeChar).map Char.toLower, rest)
      | _ => none
    else none

/-- What separates the segments of a path. -/
def isSlash (kind : Kind) (c : Char) : Bool :=
  c = '/' || (kind ≠ .other && c = '\\')

/-- What ends the host of an address. -/
def endsHost (kind : Kind) (c : Char) : Bool :=
  isSlash kind c || c = '?' || c = '#'

/-- A text up to a character and what follows that character, if it is there. -/
def splitAtFirst (c : Char) (s : List Char) : List Char × Option (List Char) :=
  match s.dropWhile (· ≠ c) with
  | [] => (s, none)
  | _ :: rest => (s.takeWhile (· ≠ c), some rest)

/-! ## User, host and port -/

/-- Name and password of a user, and the number of characters they take with the at sign behind
them. The last at sign before the path counts. With no characters before it, something other than
the path has to follow. -/
def readUser? (kind : Kind) (s : List Char) : Option (List Char × Option (List Char) × Nat) :=
  let front := s.takeWhile fun c => !endsHost kind c
  if !front.contains '@' then some ([], none, 0)
  else
    let host := (front.reverse.takeWhile (· ≠ '@')).reverse
    let user := front.take (front.length - host.length - 1)
    if user.isEmpty then
      if host.isEmpty && front.length < s.length then none else some ([], none, 1)
    else
      let (name, password) := splitAtFirst ':' user
      some (percentEncode inUser name,
        (password.filter fun p => !p.isEmpty).map (percentEncode inUser), user.length + 1)

/-- A host as it is written, and what follows it. Colons in brackets do not end it. -/
def splitHost (kind : Kind) (inBrackets : Bool) : List Char → List Char × List Char
  | [] => ([], [])
  | c :: rest =>
    if endsHost kind c || (c = ':' && !inBrackets) then ([], c :: rest)
    else
      let (host, rest) := splitHost kind (if c = '[' then true else c ≠ ']' && inBrackets) rest
      (c :: host, rest)

/-- The greatest port. -/
def maxPort : Nat := 65535

/-- The port after a host and what follows it: no port if it is left out or is the usual one. A
backslash may follow whatever the scheme. -/
def readPort? (usual : Option Nat) (s : List Char) : Option (Option Nat × List Char) :=
  match s with
  | ':' :: s =>
    let (digits, rest) := spanDigits s
    let port := natOfDigits digits
    if maxPort < port || !rest.head?.all (endsHost .web) then none
    else some (if digits.isEmpty || some port = usual then none else some port, rest)
  | s => some (none, s)

/-- Host and port of an address that is not of a file, and what follows them. An empty host has
neither user nor port, and no address of the web has one. -/
def readHost? (kind : Kind) (usual : Option Nat) (hasUser : Bool) (s : List Char) :
    Option (List Char × Option Nat × List Char) := do
  let (text, rest) := splitHost kind false s
  if text.isEmpty then
    if kind = .web || hasUser || rest.head? = some ':' then none else some ([], none, rest)
  else
    let host ← if kind = .web then Host.read? text else Host.readOpaque? text
    let (port, rest) ← readPort? usual rest
    return (host, port, rest)

/-! ## The path -/

/-- The ways in which one dot is written. -/
def isDot (s : List Char) : Bool :=
  ["." , "%2e"].any fun d => d.toList = s.map Char.toLower

/-- The ways in which two dots are written. -/
def isTwoDots (s : List Char) : Bool :=
  ["..", ".%2e", "%2e.", "%2e%2e"].any fun d => d.toList = s.map Char.toLower

/-- The letter of a drive, with a colon or a bar behind it. -/
def isDrive : List Char → Bool
  | [letter, mark] => isLetter letter && (mark = ':' || mark = '|')
  | _ => false

/-- A segment as it is kept at the front of the path of a file: behind the letter of a drive there
is a colon. -/
def driveForm (s : List Char) : List Char :=
  if isDrive s then s.take 1 ++ [':'] else s

/-- Segments without the last one. The letter of a drive stays. -/
def parent (done : List (List Char)) : List (List Char) :=
  if done.getLast?.any isDrive then done else done.dropLast

/-- Segments with the dots among them resolved, after those in `done`. A dot at the end leaves an
empty segment. -/
def resolve (kind : Kind) (done : List (List Char)) : List (List Char) → List (List Char)
  | [] => done
  | s :: rest =>
    if isTwoDots s then resolve kind (parent done ++ if rest.isEmpty then [[]] else []) rest
    else if isDot s then resolve kind (done ++ if rest.isEmpty then [[]] else []) rest
    else
      let s := percentEncode inPath s
      resolve kind (done ++ [if kind = .file && done.isEmpty then driveForm s else s]) rest

/-- The segments of a path. -/
def segments (kind : Kind) (s : List Char) : List (List Char) :=
  resolve kind [] (Address.splitAt (isSlash kind) s)

/-- A text without the slash in front of it. -/
def withoutSlash (kind : Kind) : List Char → List Char
  | [] => []
  | c :: rest => if isSlash kind c then rest else c :: rest

/-- The path behind a host. Only an address of the web needs one. -/
def pathOfHost (kind : Kind) (s : List Char) : UrlPath :=
  if s.isEmpty && kind ≠ .web then .segments [] else .segments (segments kind (withoutSlash kind s))

/-- Segments without the empty ones in front; one has to be left. -/
def trimSegments (parts : List (List Char)) : List (List Char) :=
  match parts.dropWhile List.isEmpty with
  | [] => [[]]
  | parts => parts

/-! ## Whole addresses -/

/-- Path, query and fragment, as they stand behind the host. -/
structure Tail where
  path : List Char
  query : Option (List Char)
  fragment : Option (List Char)

/-- The parts of what stands behind the host. -/
def Tail.of (kind : Kind) (s : List Char) : Tail :=
  let (s, fragment) := splitAtFirst '#' s
  let (path, query) := splitAtFirst '?' s
  ⟨path, query.map (percentEncode (if kind = .other then inQuery else inWebQuery)),
    fragment.map (percentEncode inFragment)⟩

/-- An address that has a host, read from behind the slashes before it. -/
def readAfterSlashes? (kind : Kind) (scheme s : List Char) : Option Url := do
  let (user, password, length) ← readUser? kind s
  let (host, port, s) ←
    readHost? kind (webPort? scheme) (!user.isEmpty || password.isSome) (s.drop length)
  let tail := Tail.of kind s
  return ⟨scheme, user, password, some host, port, pathOfHost kind tail.path, tail.query,
    tail.fragment⟩

/-- The host that stands for no host in the address of a file. -/
def thisMachine : List Char := "localhost".toList

/-- The address of a file on a host. If there is no host, the path starts with the slash that ends
the place for it. A path that starts with the letter of a drive needs no host. -/
def readFileOnHost? (scheme s : List Char) : Option Url := do
  let text := s.takeWhile fun c => !endsHost .file c
  let host ← if text.isEmpty || isDrive text then some [] else Host.read? text
  let host := if host = thisMachine then [] else host
  let tail := Tail.of .file (if isDrive text then s else s.drop text.length)
  let parts := segments .file (if host.isEmpty then tail.path else withoutSlash .file tail.path)
  return ⟨scheme, [], none, some (if parts.head?.any isDrive then [] else host), none,
    .segments (trimSegments parts), tail.query, tail.fragment⟩

/-- The address of a file. -/
def readFile? (scheme s : List Char) : Option Url :=
  match s with
  | a :: b :: rest =>
    if isSlash .file a && isSlash .file b then readFileOnHost? scheme rest else some here
  | _ => some here
where
  /-- The address of a file without a host. -/
  here : Url :=
    let tail := Tail.of .file s
    ⟨scheme, [], none, some [], none,
      .segments (trimSegments (segments .file (withoutSlash .file tail.path))), tail.query,
      tail.fragment⟩

/-- The address without a host that follows the colon of a scheme of the other kind. -/
def readPlain (scheme s : List Char) : Url :=
  let tail := Tail.of .other s
  let path :=
    match tail.path with
    | '/' :: path => .segments (segments .other path)
    | path => .whole (percentEncode inEveryPart path)
  ⟨scheme, [], none, none, none, path, tail.query, tail.fragment⟩

/-- The address that a text writes, if it is an absolute one. -/
def read? (s : List Char) : Option Url := do
  let (scheme, s) ← splitScheme? (clean s)
  match Kind.ofScheme scheme, s with
  | .web, s => readAfterSlashes? .web scheme (s.dropWhile (isSlash .web))
  | .file, s => readFile? scheme s
  | .other, '/' :: '/' :: s => readAfterSlashes? .other scheme s
  | .other, s => return readPlain scheme s

/-- Whether the address names a host. -/
def hasHost (u : Url) : Bool :=
  u.host.any fun host => !host.isEmpty

/-- Whether the address names a user or has a password. -/
def hasUser (u : Url) : Bool :=
  !u.user.isEmpty || u.password.isSome

/-- The address without user and password. -/
def withoutUser (u : Url) : Url :=
  { u with user := [], password := none }

/-- Path and query, as they stand in a request. -/
def target (u : Url) : List Char :=
  u.path.text ++ (u.query.map ('?' :: ·)).getD []

/-- User, host and port with the slashes before them. Where there is no host, a path that starts
with two slashes gets a dot in front, so that it is not taken for one. -/
def authority (u : Url) : List Char :=
  match u.host with
  | none =>
    match u.path with
    | .segments ([] :: _ :: _) => ['/', '.']
    | _ => []
  | some host =>
    let user := u.user ++ (u.password.map (':' :: ·)).getD []
    ['/', '/'] ++ (if u.hasUser then user ++ ['@'] else []) ++ host ++
      (u.port.map fun n => ':' :: Nat.toDigits 10 n).getD []

/-- The address in full. -/
def text (u : Url) : List Char :=
  u.scheme ++ [':'] ++ u.authority ++ u.target ++ (u.fragment.map ('#' :: ·)).getD []

/-- The address with one more pair of name and value in its query. -/
def withParameter (u : Url) (name value : List Char) : Url :=
  let pair := formEncode name ++ ['='] ++ formEncode value
  { u with
    query :=
      match u.query with
      | none | some [] => some pair
      | some q => some (q ++ ['&'] ++ pair) }

example : (read? "http://h:80/a/./b/../c?x#y".toList).map text =
    some "http://h/a/c?x#y".toList := by decide +kernel
example : (read? "ws:\\u:p:@h".toList).map text = some "ws://u:p%3A@h/".toList := by decide +kernel
example : (read? "file:/c|/../x".toList).map text = some "file:///c:/x".toList := by decide +kernel
example : (read? "a:/b/..//c".toList).map text = some "a:/.//c".toList := by decide +kernel
example : read? "not a url".toList = none := by decide +kernel

end Url
end RailWatch

import RailWatch.Text.Charset
import RailWatch.Text.Digits
/-!
# RailWatch.Text.MediaType

The type of a content, written as `text/plain; charset=latin1`, and the charset that it names.

A type has two names with a slash between them, and parameters, each behind a semicolon. The value
of a parameter may stand in quotation marks. A type that is not well formed names no charset.
-/

namespace RailWatch.Text.MediaType

/-- A character that a name or value may have outside quotation marks. -/
def isTokenChar (c : Char) : Bool :=
  ('a' ≤ c && c ≤ 'z') || ('A' ≤ c && c ≤ 'Z') || isDigit c ||
    ['!', '#', '$', '%', '&', Char.ofNat 39, '*', '+', '-', '.', '^', '_', Char.ofNat 0x60, '|',
      '~'].contains c

/-- A name or value in front, if there is one, and what follows it. -/
def token? (s : List Char) : Option (List Char × List Char) :=
  match s.takeWhile isTokenChar with
  | [] => none
  | t => some (t, s.dropWhile isTokenChar)

/-- A character that a quoted value may have. -/
def isQuotedChar (c : Char) : Bool :=
  0x1F < c.toNat && c.toNat ≠ 0x7F

/-- A value behind a quotation mark, and what follows the mark that ends it and the blanks behind
that. A quotation mark at the front is part of the value. -/
def quotedValue? (s : List Char) : Option (List Char × List Char) :=
  match s with
  | [] => none
  | first :: rest =>
    let value := first :: rest.takeWhile (· ≠ '"')
    match rest.dropWhile (· ≠ '"') with
    | [] => none
    | _ :: rest =>
      if value.all isQuotedChar then some (value, rest.dropWhile (· = ' ')) else none

/-- The value of a parameter and what follows it, which is nothing or starts with a semicolon. -/
def value? (s : List Char) : Option (List Char × List Char) := do
  let (value, rest) ←
    match s with
    | [] => some ([], [])
    | '"' :: s => quotedValue? s
    | s => token? s
  match rest with
  | [] | ';' :: _ => some (value, rest)
  | _ => none

/-- The parameters behind the names of a type, at most so many. -/
def parameters? : Nat → List Char → Option (List (List Char × List Char))
  | 0, _ | _, [] => some []
  | n + 1, _ :: s =>
    match s.dropWhile (· = ' ') with
    | [] => some []
    | s => do
      let (name, s) ← token? s
      match s with
      | '=' :: s =>
        let (value, s) ← value? s
        let rest ← parameters? n s
        return (name, value) :: rest
      | _ => none

/-- The value of the first parameter for a charset, if the type is well formed. -/
def charsetLabel? (s : List Char) : Option (List Char) := do
  let (_, s) ← token? s
  match s with
  | '/' :: s =>
    let (_, s) ← token? s
    match s with
    | [] | ';' :: _ =>
      let parameters ← parameters? s.length s
      let entry ← parameters.find? fun p => p.1.map Char.toLower = "charset".toList
      return entry.2
    | _ => none
  | _ => none

/-- The charset that the type of a content names, and the common one if it names none. A type with
any character beyond ASCII names none. -/
def charset (contentType : Option (List Char)) : Charset :=
  let label? := contentType.bind fun t =>
    if t.all (·.toNat < 0x80) then charsetLabel? t else none
  (label?.bind Charset.ofLabel?).getD .utf8

example : charset (some "text/plain; charset=utf-16".toList) = .utf16Little := by decide +kernel
example : charset (some "a/b; charset=utf-16; c=\"é\"".toList) = .utf8 := by decide +kernel
example : charset (some "application/json".toList) = .utf8 := by decide +kernel
example : charsetLabel? "a/b;x=\"y;z\" ;charset=\"\"\"".toList = some ['"'] := by decide +kernel

end RailWatch.Text.MediaType

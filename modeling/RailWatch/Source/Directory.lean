import RailWatch.Source.Canned
import RailWatch.Text.Quoted
/-!
# RailWatch.Source.Directory

A shelf from the files of a directory.

The payload of train `10512` is in the file `10512.json`. File names are octets, and the extension
of a name is what follows its last dot, if anything stands before that dot. Files with any other
extension are left alone, and so are directories, whatever their names. A directory without a
single payload is taken for a mistake.
-/

namespace RailWatch

open Text

/-- What stands under a name in a directory. -/
inductive DirectoryItem
  /-- A file with these octets. -/
  | file (octets : List UInt8)
  /-- Another directory. -/
  | directory
deriving DecidableEq

/-- Why a directory cannot be listed. -/
inductive ListingError
  /-- There is nothing of that name. -/
  | missing
  /-- There is something of that name, but no directory. -/
  | notDirectory
  /-- A name on the path, or the path itself, is longer than names can be. -/
  | tooLong
  /-- The octet zero is on the path, which ends texts where files are opened. -/
  | zeroOctet
  /-- Another reason. -/
  | other (text : String)
deriving DecidableEq

/-- The reason in words. -/
def ListingError.message : ListingError → String
  | missing => "No such file or directory (os error 2)"
  | notDirectory => "Not a directory (os error 20)"
  | tooLong => "File name too long (os error 36)"
  | zeroOctet => "file name contained an unexpected NUL byte"
  | other text => text

/-- The names in a directory and what stands under them, in any order. -/
abbrev Listing := List (List UInt8 × DirectoryItem)

namespace Directory

/-- The octet of a dot. -/
def dot : UInt8 := 0x2E

/-- The octet between the parts of a path. -/
def slash : UInt8 := 0x2F

/-- Stem and extension of a name, for a name that has an extension. -/
def split? (name : List UInt8) : Option (List UInt8 × List UInt8) :=
  let extension := (name.reverse.takeWhile (· ≠ dot)).reverse
  let stem := name.take (name.length - extension.length - 1)
  if stem.isEmpty || extension.length = name.length then none else some (stem, extension)

/-- The extension of payloads. -/
def payloadExtension : List UInt8 := Utf8.encode "json".toList

/-- The stem of a name with the extension of payloads. -/
def payloadStem? (name : List UInt8) : Option (List UInt8) :=
  (split? name).bind fun (stem, extension) =>
    if extension = payloadExtension then some stem else none

/-- The path of a name in a directory. -/
def join (path name : List UInt8) : List UInt8 :=
  if path.getLast? = some slash then path ++ name else path ++ [slash] ++ name

/-- Why a directory makes no shelf. -/
inductive LoadError
  /-- It cannot be listed. -/
  | unlisted (error : ListingError)
  /-- The name of a payload is no text. -/
  | badName (path : List UInt8)
  /-- The octets of a payload are no text. -/
  | badText (path : List UInt8)
  /-- There is no payload in it. -/
  | noPayload (path : List UInt8)
deriving DecidableEq

/-- The error in words. -/
def LoadError.message : LoadError → String
  | unlisted error => "failed to read mock data directory: " ++ error.message
  | badName path => "invalid filename: " ++ quotedName path
  | badText path =>
    "failed to read " ++ quotedName path ++ ": stream did not contain valid UTF-8"
  | noPayload path => "no mock train files found in " ++ quotedName path

/-- Train and payload of one item, if it is a payload. -/
def payload? (path name : List UInt8) (item : DirectoryItem) :
    Except LoadError (Option (String × String)) :=
  match item, payloadStem? name with
  | .file octets, some stem =>
    match Utf8.decode? stem with
    | none => .error (.badName (join path name))
    | some id =>
      match Utf8.decode? octets with
      | none => .error (.badText (join path name))
      | some body => .ok (some (String.ofList id, String.ofList body))
  | _, _ => .ok none

/-- Puts the payloads of a listing on a shelf, up to the first one that is unusable. -/
def fill (path : List UInt8) : Shelf → Listing → Except LoadError Shelf
  | shelf, [] => .ok shelf
  | shelf, (name, item) :: rest => do
    match ← payload? path name item with
    | some (id, body) => fill path (shelf.put id (.body body)) rest
    | none => fill path shelf rest

/-- The shelf that a directory makes. -/
def load (path : List UInt8) (listing : Except ListingError Listing) :
    Except LoadError Shelf :=
  match listing with
  | .error e => .error (.unlisted e)
  | .ok items => do
    let shelf ← fill path .empty items
    if shelf.replies.isEmpty then .error (.noPayload path) else .ok shelf

/-- The error of a source that cannot be set up. -/
def LoadError.transport (e : LoadError) : TransportError :=
  .notConfigured e.message

example : split? (Utf8.encode "a.json.json".toList) =
    some (Utf8.encode "a.json".toList, payloadExtension) := by decide
example : split? (Utf8.encode ".json".toList) = none := by decide
example : split? (Utf8.encode "json".toList) = none := by decide

end Directory
end RailWatch

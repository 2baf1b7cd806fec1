import RailWatch.Source.Directory
/-!
# RailWatch.Source.FileTree

Files and directories held in memory, and the listing of a directory among them.

A path is a text of octets with slashes between its parts; how many slashes, and whether one stands
at the end, does not matter. A part is looked up in the directory that the parts before it
lead to: one dot stays in it, two dots go back to the directory around it, and the root is around
itself.
-/

namespace RailWatch

/-- Files and empty directories by the parts of their paths. What leads to one of them is a
directory as well. -/
structure FileTree where
  items : List (List (List UInt8) × DirectoryItem)

namespace FileTree

/-- The parts of a path. -/
def parts (path : List UInt8) : List (List UInt8) :=
  (path.splitOn Directory.slash).filter fun part => !part.isEmpty

/-- The greatest number of octets of a name. -/
def maxName : Nat := 255

/-- The number of octets that a path does not reach. -/
def pathLimit : Nat := 4096

/-- Whether there is a directory at a place. -/
def isDirectory (t : FileTree) (place : List (List UInt8)) : Bool :=
  place.isEmpty || t.items.any fun (path, item) =>
    place.isPrefixOf path && (item = .directory || place.length < path.length)

/-- Whether there is anything at a place. -/
def holds (t : FileTree) (place : List (List UInt8)) : Bool :=
  place.isEmpty || t.items.any fun (path, _) => place.isPrefixOf path

/-- Where the parts of a path lead to from a place. -/
def walk (t : FileTree) (place : List (List UInt8)) :
    List (List UInt8) → Except ListingError (List (List UInt8))
  | [] => .ok place
  | part :: rest =>
    if !t.isDirectory place then .error .notDirectory
    else if part = [Directory.dot] then walk t place rest
    else if part = [Directory.dot, Directory.dot] then walk t place.dropLast rest
    else if maxName < part.length then .error .tooLong
    else if t.holds (place ++ [part]) then walk t (place ++ [part]) rest
    else .error .missing

/-- What stands in the directory at a place. -/
def children (t : FileTree) (place : List (List UInt8)) : Listing :=
  (t.items.filterMap fun (path, item) =>
    match path.drop place.length with
    | [name] => if place.isPrefixOf path then some (name, item) else none
    | name :: _ => if place.isPrefixOf path then some (name, .directory) else none
    | [] => none).eraseDups

/-- The listing of the directory that a path leads to. -/
def list (t : FileTree) (path : List UInt8) : Except ListingError Listing :=
  if path.contains 0 then .error .zeroOctet
  else if path.isEmpty then .error .missing
  else if pathLimit ≤ path.length then .error .tooLong
  else do
    let place ← t.walk [] (parts path)
    if t.isDirectory place then .ok (t.children place) else .error .notDirectory

/-- A tree of one file in a directory. -/
def sample : FileTree := ⟨[([[100], [97]], .file [])]⟩

example : sample.list [100, 47, 47, 46, 46, 47, 100, 47, 46] = .ok [([97], .file [])] := by cbv
example : sample.list [100, 47, 97, 47] = .error .notDirectory := by cbv
example : sample.list [120] = .error .missing := by cbv

end FileTree
end RailWatch

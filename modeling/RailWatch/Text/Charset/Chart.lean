import RailWatch.Text.Utf8
/-!
# RailWatch.Text.Charset.Chart

Charts of characters, as the standards of charsets print them.

A **chart** has numbered cells, each with a character or empty. Charts are written as runs of cells
that are next to each other: the number of the first cell, and a text with one character for each
cell. A space in it is an empty cell.
-/

namespace RailWatch.Text.Charset

/-- A run of cells: the number of the first one, and their characters. -/
abbrev CellRun := Nat × String

/-- Cells by number. -/
structure Chart where
  cells : Array Char

namespace Chart

/-- What stands in an empty cell. -/
def blank : Char := ' '

/-- The character of a cell, if it has one. -/
def get? (chart : Chart) (n : Nat) : Option Char :=
  chart.cells[n]?.filter (· ≠ blank)

/-- A chart without characters. -/
def empty (size : Nat) : Chart := ⟨Array.replicate size blank⟩

/-- A chart with characters in a run of cells from `n` on. -/
def withRun (chart : Chart) (n : Nat) (chars : List Char) : Chart :=
  ⟨(chars.foldl (fun (cells, n) c => (Array.setIfInBounds cells n c, n + 1)) (chart.cells, n)).1⟩

/-- The chart of so many cells that runs make up. -/
def ofRuns (size : Nat) (runs : List CellRun) : Chart :=
  runs.foldl (fun chart run => chart.withRun run.1 run.2.toList) (empty size)

/-- The characters from one code point to another that no cell has, in order. -/
def missing (chart : Chart) (first last : Nat) : List Char :=
  let found := chart.cells.foldl
    (fun found c =>
      if first ≤ c.toNat then Array.setIfInBounds found (c.toNat - first) true else found)
    (Array.replicate (last + 1 - first) false)
  (found.toList.zipIdx.filter fun p => !p.1).map fun p => Char.ofNat (first + p.2)

/-- A chart whose empty cells hold the characters of a list, in order. Cells that do not count as
such stay empty. -/
def fill (chart : Chart) (counts : Nat → Bool) (chars : List Char) : Chart :=
  let place : Array Char × List Char → Char → Array Char × List Char
    | (cells, first :: rest), c =>
      if c = blank && counts cells.size then (cells.push first, rest)
      else (cells.push c, first :: rest)
    | (cells, []), c => (cells.push c, [])
  ⟨(chart.cells.foldl place (#[], chars)).1⟩

example : (ofRuns 4 [(1, "a b")]).get? 1 = some 'a' := by decide
example : (ofRuns 4 [(1, "a b")]).get? 2 = none := by decide
example : ((ofRuns 4 [(1, "a b")]).fill (fun _ => true) ['x', 'y']).cells =
    #['x', 'a', 'y', 'b'] := by decide

end Chart
end RailWatch.Text.Charset

/-!
# RailWatch.Text.CharRuns

Characters that stand for others, in runs of characters that are next to each other.
-/

namespace RailWatch.Text

/-- Runs of characters: the code point of the first one, and what each character of the run stands
for. -/
abbrev CharRuns := List (Nat × String)

/-- What a character stands for, if it is in a run. -/
def CharRuns.lookup? (runs : CharRuns) (c : Char) : Option Char :=
  runs.findSome? fun (first, text) =>
    if first ≤ c.toNat then text.toList[c.toNat - first]? else none

end RailWatch.Text

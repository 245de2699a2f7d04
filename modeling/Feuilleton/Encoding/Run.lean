import Feuilleton.Encoding.Utf8

/-!
# Runs of characters

Large sets of characters are given in runs: the code of the first character and all characters
that follow it without a gap.
-/

namespace Feuilleton.Encoding

structure Run where
  first : Nat
  characters : String
  deriving DecidableEq, Repr

/-- Runs in a form in which characters are found quickly. -/
abbrev CharacterSet := List (Nat × Array Char)

def CharacterSet.ofRuns (runs : List Run) : CharacterSet :=
  runs.map fun run => (run.first, run.characters.toList.toArray)

/-- The character of a code. -/
def CharacterSet.find? (characters : CharacterSet) (code : Nat) : Option Char :=
  characters.findSome? fun (first, run) =>
    if first ≤ code then run[code - first]? else none

end Feuilleton.Encoding

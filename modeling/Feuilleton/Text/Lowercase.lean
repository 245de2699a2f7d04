import Feuilleton.Text.CaseTable
import Feuilleton.Text.Word

/-!
# Lowercase

Full lowercasing of Unicode: every character has one lowercase form, except that a capital I with
a dot becomes an i followed by a combining dot, and that a capital sigma at the end of a word
becomes the final form.
-/

namespace Feuilleton.Text

def CaseRun.holds (run : CaseRun) (n : Nat) : Bool :=
  run.first ≤ n && n ≤ run.last && (n - run.first) % run.stride == 0

def simpleLower (c : Char) : Char :=
  if c.toNat < 128 then c.toLower
  else match lowercaseRuns.find? (·.holds c.toNat) with
    | some run => Char.ofNat (c.toNat + run.offset).toNat
    | none => c

def isCaseIgnorable (c : Char) : Bool :=
  inRanges caseIgnorableRanges c.toNat

def isCased (c : Char) : Bool :=
  inRanges casedRanges c.toNat

/-- The nearest neighbour that is not looked through is a letter with a case. -/
def meetsCased (cs : List Char) : Bool :=
  match cs.dropWhile isCaseIgnorable with
  | [] => false
  | c :: _ => isCased c

/-- The lowercase form of `c` between `before` (nearest first) and `after`. -/
def lowerBetween (before : List Char) (c : Char) (after : List Char) : List Char :=
  if c = 'Σ' then
    if meetsCased before && !meetsCased after then ['ς'] else ['σ']
  else if c = 'İ' then ['i', '\u0307']
  else [simpleLower c]

def lowerFrom (before : List Char) : List Char → List Char
  | [] => []
  | c :: rest => lowerBetween before c rest ++ lowerFrom (c :: before) rest

def lower (s : String) : String :=
  String.ofList (lowerFrom [] s.toList)

end Feuilleton.Text

import Feuilleton.Text.Blank
import Feuilleton.Text.Word

/-!
# Repairing pages

Five rules, applied once each in a fixed order, remove what would mislead a reader of markup.
Every rule but the one for line ends says so when it has changed something.
-/

namespace Feuilleton.Page

/-! ## Doubled brackets -/

def isAsciiLetter (c : Char) : Bool :=
  c.isAlpha

/-- A tag name follows, perhaps behind a slash. -/
def beginsTag : List Char → Bool
  | '/' :: c :: _ => isAsciiLetter c
  | c :: _ => isAsciiLetter c
  | [] => false

set_option linter.unusedVariables false in
/-- A tag in two or more opening and closing brackets gets single ones. -/
def fixBrackets (cs : List Char) : List Char :=
  match cs with
  | '<' :: '<' :: rest =>
      let after := rest.dropWhile (· == '<')
      let run := rest.takeWhile (· == '<')
      let inner := after.takeWhile (· != '>')
      match h : after.dropWhile (· != '>') with
      | '>' :: '>' :: tail =>
          if beginsTag after then '<' :: (inner ++ '>' :: fixBrackets (tail.dropWhile (· == '>')))
          else '<' :: '<' :: (run ++ fixBrackets after)
      | _ => '<' :: '<' :: (run ++ fixBrackets after)
  | c :: rest => c :: fixBrackets rest
  | [] => []
termination_by cs.length
decreasing_by
  · have h₁ := (List.dropWhile_suffix (l := tail) (· == '>')).length_le
    have h₂ := (List.dropWhile_suffix (l := after) (· != '>')).length_le
    have h₃ := (List.dropWhile_suffix (l := rest) (· == '<')).length_le
    simp only [h, List.length_cons, after] at h₁ h₂ h₃ ⊢
    omega
  · have h₃ := (List.dropWhile_suffix (l := rest) (· == '<')).length_le
    simp only [List.length_cons]; omega
  · have h₃ := (List.dropWhile_suffix (l := rest) (· == '<')).length_le
    simp only [List.length_cons]; omega
  · simp

/-! ## Single characters -/

def removeNull (cs : List Char) : List Char :=
  cs.filter (· != '\x00')

/-- Between a word and a quote, two equals signs become one. -/
def fixEquals : List Char → List Char
  | c :: '=' :: '=' :: quote :: rest =>
      if Text.isWord c && (quote == '"' || quote == '\'') then
        c :: '=' :: quote :: fixEquals rest
      else c :: fixEquals ('=' :: '=' :: quote :: rest)
  | c :: rest => c :: fixEquals rest
  | [] => []

/-- Control characters other than tabs and line ends. -/
def isStrayControl (c : Char) : Bool :=
  let n := c.toNat
  (1 ≤ n && n ≤ 8) || n == 11 || n == 12 || (14 ≤ n && n ≤ 31)

def removeControls (cs : List Char) : List Char :=
  cs.filter (!isStrayControl ·)

/-! ## All rules -/

structure Rule where
  apply : List Char → List Char
  warning : Option String

def rules : List Rule := [
  ⟨removeNull, some "Removed NULL bytes"⟩,
  ⟨fixBrackets, some "Fixed double angle brackets"⟩,
  ⟨fixEquals, some "Fixed malformed attributes (double equals)"⟩,
  ⟨Text.unifyLineEnds, none⟩,
  ⟨removeControls, some "Removed control characters"⟩]

structure Repaired where
  text : List Char
  warnings : List String := []
  deriving DecidableEq, Repr

def Repaired.apply (page : Repaired) (rule : Rule) : Repaired :=
  let text := rule.apply page.text
  { text
    warnings := if text = page.text then page.warnings
      else page.warnings ++ rule.warning.toList }

def repairList (cs : List Char) : Repaired :=
  rules.foldl Repaired.apply ⟨cs, []⟩

def repair (html : String) : String × List String :=
  let repaired := repairList html.toList
  (String.ofList repaired.text, repaired.warnings)

end Feuilleton.Page

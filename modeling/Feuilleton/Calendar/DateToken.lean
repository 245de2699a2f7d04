import Feuilleton.Text.Blank
import Feuilleton.Text.Word

/-!
# Tokens of dates

A written date is cut into runs of letters, runs of digits and single other characters; every
blank becomes a space. Points join digits and letters to one run at first. Such a run is cut at
its points and commas afterwards unless it is a number with one fraction.
-/

namespace Feuilleton.DateToken

inductive RunKind
  | letters
  | digits
  | dottedLetters
  | dottedDigits
  deriving DecidableEq, Repr

/-- A run in progress; its characters are kept last one first. -/
structure Run where
  kind : RunKind
  chars : List Char
  sawLetters : Bool := false
  deriving DecidableEq, Repr

/-- Takes one more character into a run, if it belongs to it. -/
def Run.extend? (run : Run) (c : Char) : Option Run :=
  let afterPoint := run.chars.head? == some '.'
  match run.kind with
  | .letters =>
      if Text.isLetter c then some { run with chars := c :: run.chars, sawLetters := true }
      else if c = '.' then some ⟨.dottedLetters, c :: run.chars, true⟩
      else none
  | .digits =>
      if Text.isDigitForm c then some { run with chars := c :: run.chars }
      else if c = '.' ∨ (c = ',' ∧ 2 ≤ run.chars.length) then
        some { run with kind := .dottedDigits, chars := c :: run.chars }
      else none
  | .dottedLetters =>
      if c = '.' ∨ Text.isLetter c then
        some { run with chars := c :: run.chars, sawLetters := true }
      else if Text.isDigitForm c && afterPoint then some ⟨.dottedDigits, c :: run.chars, true⟩
      else none
  | .dottedDigits =>
      if c = '.' ∨ Text.isDigitForm c then some { run with chars := c :: run.chars }
      else if Text.isLetter c && afterPoint then
        some { run with kind := .dottedLetters, chars := c :: run.chars }
      else none

/-- Letters were seen once a run goes on behind a letter, whether or not the next character
belongs to it. -/
def Run.leave (run : Run) : Run :=
  match run.kind with
  | .letters | .dottedLetters => { run with sawLetters := true }
  | _ => run

def cutAtMarks (piece : List Char) : List Char → List (List Char)
  | [] => [piece.reverse]
  | c :: rest =>
      if c = '.' ∨ c = ',' then piece.reverse :: [c] :: cutAtMarks [] rest
      else cutAtMarks (c :: piece) rest

def Run.tokens (run : Run) : List String :=
  let text := run.chars.reverse
  let dotted := run.kind = .dottedLetters ∨ run.kind = .dottedDigits
  let points := text.count '.'
  let markedEnd := run.chars.head? = some '.' ∨ run.chars.head? = some ','
  if dotted ∧ (run.sawLetters ∨ 1 < points ∨ markedEnd) then
    ((cutAtMarks [] text).filter (!·.isEmpty)).map String.ofList
  else if run.kind = .dottedDigits ∧ points = 0 then
    [String.ofList (text.map fun c => if c = ',' then '.' else c)]
  else [String.ofList text]

def scan (run? : Option Run) : List Char → List String
  | [] => match run? with
    | some run => run.tokens
    | none => []
  | c :: rest =>
      match run?.bind (·.extend? c) with
      | some run => scan (some run) rest
      | none =>
          let done := match run? with
            | some run => run.leave.tokens
            | none => []
          done ++
            if Text.isLetter c then scan (some ⟨.letters, [c], false⟩) rest
            else if Text.isDigitForm c then scan (some ⟨.digits, [c], false⟩) rest
            else if Text.isBlank c then " " :: scan none rest
            else String.singleton c :: scan none rest

def tokens (s : String) : List String :=
  scan none (s.toList.filter (· != '\x00'))

end Feuilleton.DateToken

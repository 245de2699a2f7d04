import Feuilleton.Markup.Tag

/-!
# Scripts

A script ends at its end tag. In what looks like a comment inside it a further script may be
opened, whose end tag then closes only that.
-/

namespace Feuilleton.Markup

inductive ScriptLevel
  | plain
  | commented
  | nested
  deriving DecidableEq, Repr

def scriptName : List Char := ['s', 'c', 'r', 'i', 'p', 't']

def scriptOpens (cs : List Char) : Bool :=
  tagFollows ['<'] scriptName cs

def scriptCloses (cs : List Char) : Bool :=
  tagFollows ['<', '/'] scriptName cs

/-- The level at the next character. -/
def ScriptLevel.next (level : ScriptLevel) (cs : List Char) : ScriptLevel :=
  match level with
  | plain => if ['<', '!', '-', '-'].isPrefixOf cs then commented else plain
  | commented =>
      if ['-', '-', '>'].isPrefixOf cs then plain else if scriptOpens cs then nested else commented
  | nested =>
      if ['-', '-', '>'].isPrefixOf cs then plain else if scriptCloses cs then commented else nested

/-- Text and rest of a script; the rest begins with the end tag, if there is one. -/
def scriptText (level : ScriptLevel) : List Char → List Char × List Char
  | [] => ([], [])
  | c :: rest =>
      if level ≠ .nested ∧ scriptCloses (c :: rest) then ([], c :: rest)
      else
        let (text, after) := scriptText (level.next (c :: rest)) rest
        (shown c :: text, after)

end Feuilleton.Markup

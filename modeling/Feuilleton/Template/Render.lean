import Feuilleton.Template.Segment
import Feuilleton.Template.Shape

/-!
# Filling in templates

The layout of a field may itself hold fields, which are filled in first; theirs may not.
-/

namespace Feuilleton.Template

namespace Value

def convert (value : Value) : Char → Except Error Value
  | 's' => text <$> value.display
  | 'r' => text <$> quotedWith Text.quoted
  | 'a' => text <$> quotedWith Text.quotedAscii
  | c => .error (.unknownConversion c)
where
  quotedWith (quote : String → String) : Except Error String :=
    match value with
    | text content => .ok (quote content)
    | value => value.display

end Value

/-- The text of a field, where `expand` fills in its layout. -/
def Field.render (values : Values) (expand : List Char → Except Error (List Char))
    (field : Field) : Except Error (List Char) := do
  let value ← valueOf values field.name
  let value ← match field.conversion with
    | some c => value.convert c
    | none => pure value
  let layout ← if field.layout.contains '\x7b' then expand field.layout else pure field.layout
  value.shape layout

def Segment.render (values : Values) (expand : List Char → Except Error (List Char)) :
    Segment → Except Error (List Char)
  | literal c => .ok [c]
  | field f => f.render values expand
  | broken error => .error error

/-- Fills in a template whose fields may be nested `depth` deep. -/
def expand (values : Values) : Nat → List Char → Except Error (List Char)
  | 0, _ => .error .tooDeep
  | depth + 1, template => do
      let pieces ← (segments template).mapM (Segment.render values (expand values depth))
      .ok pieces.flatten

def maxDepth : Nat := 2

def render (values : Values) (template : String) : Except Error String :=
  (expand values maxDepth template.toList).map String.ofList

end Feuilleton.Template

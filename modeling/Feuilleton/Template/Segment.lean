import Feuilleton.Template.Basic

/-!
# Segments of a template

A template is read from left to right into single characters and fields. Where it cannot be read
on, a last segment says why, so that whatever stands before is dealt with first.
-/

namespace Feuilleton.Template

structure Field where
  name : List Char
  conversion : Option Char := none
  layout : List Char := []
  deriving DecidableEq, Repr

inductive Segment
  | literal (c : Char)
  | field (field : Field)
  | broken (error : Error)
  deriving DecidableEq, Repr

/-- Where the reader stands. What was read of a part is kept in reverse. -/
inductive Place
  | literal
  | name (bracketed : Bool) (name : List Char)
  | conversion (name : List Char)
  | afterConversion (name : List Char) (conversion : Char)
  | layout (name : List Char) (conversion : Option Char) (depth : Nat) (layout : List Char)
  deriving DecidableEq, Repr

def segmentsFrom : Place → List Char → List Segment
  | .literal, [] => []
  | .literal, ['\x7b'] => [.broken .singleOpening]
  | .literal, '\x7b' :: '\x7b' :: rest => .literal '\x7b' :: segmentsFrom .literal rest
  | .literal, '\x7d' :: '\x7d' :: rest => .literal '\x7d' :: segmentsFrom .literal rest
  | .literal, c :: rest =>
      if c = '\x7b' then segmentsFrom (.name false []) rest
      else if c = '\x7d' then [.broken .singleClosing]
      else .literal c :: segmentsFrom .literal rest
  | .name _ _, [] => [.broken .unclosedField]
  | .name true name, c :: rest => segmentsFrom (.name (c != ']') (c :: name)) rest
  | .name false name, c :: rest =>
      if c = '\x7b' then [.broken .openingInName]
      else if c = '\x7d' then .field { name := name.reverse } :: segmentsFrom .literal rest
      else if c = ':' then segmentsFrom (.layout name none 0 []) rest
      else if c = '!' then segmentsFrom (.conversion name) rest
      else segmentsFrom (.name (c == '[') (c :: name)) rest
  | .conversion _, [] => [.broken .missingConversion]
  | .conversion name, c :: rest => segmentsFrom (.afterConversion name c) rest
  | .afterConversion _ _, [] => [.broken .unclosedLayout]
  | .afterConversion name conversion, c :: rest =>
      if c = '\x7d' then
        .field { name := name.reverse, conversion := some conversion } ::
          segmentsFrom .literal rest
      else if c = ':' then segmentsFrom (.layout name (some conversion) 0 []) rest
      else [.broken .missingColon]
  | .layout _ _ _ _, [] => [.broken .unclosedLayout]
  | .layout name conversion depth layout, c :: rest =>
      if c = '\x7d' then
        match depth with
        | 0 =>
            .field { name := name.reverse, conversion, layout := layout.reverse } ::
              segmentsFrom .literal rest
        | outer + 1 => segmentsFrom (.layout name conversion outer (c :: layout)) rest
      else if c = '\x7b' then
        segmentsFrom (.layout name conversion (depth + 1) (c :: layout)) rest
      else segmentsFrom (.layout name conversion depth (c :: layout)) rest

def segments (template : List Char) : List Segment :=
  segmentsFrom .literal template

end Feuilleton.Template

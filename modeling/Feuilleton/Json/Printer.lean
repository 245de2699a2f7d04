import Feuilleton.Json.Basic
import Feuilleton.Number.Shortest
import Feuilleton.Text.Digit

/-!
# Writing JSON

Two layouts: everything on one line without blanks, and one member or item per line, indented by
two spaces for every level. Only what the format demands is escaped; all other characters stand
for themselves.
-/

namespace Feuilleton.Json

def escapeChar (c : Char) : List Char :=
  if c = '"' then ['\\', '"']
  else if c = '\\' then ['\\', '\\']
  else if c = '\n' then ['\\', 'n']
  else if c = '\r' then ['\\', 'r']
  else if c = '\t' then ['\\', 't']
  else if c = '\x08' then ['\\', 'b']
  else if c = '\x0c' then ['\\', 'f']
  else if c.toNat < 0x20 then '\\' :: 'u' :: (Text.hexPadded 4 c.toNat).toList
  else [c]

def stringChars (s : String) : List Char :=
  '"' :: (s.toList.flatMap escapeChar ++ ['"'])

def numberNames : Binary64.SpecialNames := ⟨"NaN", "Infinity"⟩

/-! ## On one line -/

mutual

def compactChars : Json → List Char
  | null => "null".toList
  | bool true => "true".toList
  | bool false => "false".toList
  | int i => (Text.intText i).toList
  | float x => (x.text numberNames).toList
  | str s => stringChars s
  | arr items => '[' :: (compactItems items ++ [']'])
  | obj members => '\x7b' :: (compactMembers members ++ ['\x7d'])

def compactItems : List Json → List Char
  | [] => []
  | [item] => compactChars item
  | item :: rest => compactChars item ++ ',' :: compactItems rest

def compactMembers : List (String × Json) → List Char
  | [] => []
  | [(name, value)] => stringChars name ++ ':' :: compactChars value
  | (name, value) :: rest =>
      stringChars name ++ ':' :: (compactChars value ++ ',' :: compactMembers rest)

end

def compact (value : Json) : String :=
  String.ofList value.compactChars

/-! ## Indented -/

def lineBreak (level : Nat) : List Char :=
  '\n' :: List.replicate (2 * level) ' '

mutual

def indentedChars (level : Nat) : Json → List Char
  | null => "null".toList
  | bool true => "true".toList
  | bool false => "false".toList
  | int i => (Text.intText i).toList
  | float x => (x.text numberNames).toList
  | str s => stringChars s
  | arr [] => ['[', ']']
  | arr (item :: rest) =>
      '[' :: (lineBreak (level + 1) ++ indentedItems (level + 1) (item :: rest) ++
        lineBreak level ++ [']'])
  | obj [] => ['\x7b', '\x7d']
  | obj (member :: rest) =>
      '\x7b' :: (lineBreak (level + 1) ++ indentedMembers (level + 1) (member :: rest) ++
        lineBreak level ++ ['\x7d'])

def indentedItems (level : Nat) : List Json → List Char
  | [] => []
  | [item] => indentedChars level item
  | item :: rest =>
      indentedChars level item ++ ',' :: (lineBreak level ++ indentedItems level rest)

def indentedMembers (level : Nat) : List (String × Json) → List Char
  | [] => []
  | [(name, value)] => stringChars name ++ ':' :: ' ' :: indentedChars level value
  | (name, value) :: rest =>
      stringChars name ++ ':' :: ' ' :: (indentedChars level value ++
        ',' :: (lineBreak level ++ indentedMembers level rest))

end

def indented (value : Json) : String :=
  String.ofList (value.indentedChars 0)

end Feuilleton.Json

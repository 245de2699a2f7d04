import Feuilleton.Text.Digit
import Feuilleton.Text.PrintableTable
import Feuilleton.Text.Word

/-!
# Quoted text

A text between quotes as it stands in messages. Single quotes are used unless the text holds
single quotes and no double ones. Characters without a visible form are written as escapes of two,
four or eight hexadecimal digits.
-/

namespace Feuilleton.Text

def isPrintable (c : Char) : Bool :=
  !inRanges unprintableRanges c.toNat

def codeEscape (c : Char) : String :=
  if c.toNat < 0x100 then "\\x" ++ hexPadded 2 c.toNat
  else if c.toNat < 0x10000 then "\\u" ++ hexPadded 4 c.toNat
  else "\\U" ++ hexPadded 8 c.toNat

def quoteFor (s : String) : Char :=
  if s.toList.contains '\'' && !s.toList.contains '"' then '"' else '\''

def quotedChar (quote : Char) (shown : Char → Bool) (c : Char) : String :=
  if c = quote || c = '\\' then String.ofList ['\\', c]
  else if c = '\n' then "\\n"
  else if c = '\r' then "\\r"
  else if c = '\t' then "\\t"
  else if shown c then String.singleton c
  else codeEscape c

def quotedBy (shown : Char → Bool) (s : String) : String :=
  let quote := quoteFor s
  String.singleton quote ++ join (s.toList.map (quotedChar quote shown)) ++ String.singleton quote
where
  join (pieces : List String) : String := pieces.foldl (· ++ ·) ""

def quoted (s : String) : String :=
  quotedBy isPrintable s

/-- As `quoted`, with every character outside ASCII escaped as well. -/
def quotedAscii (s : String) : String :=
  quotedBy (fun c => c.toNat < 128 && isPrintable c) s

end Feuilleton.Text

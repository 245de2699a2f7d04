import Feuilleton.Markup.BasicNames
import Feuilleton.Markup.CharacterNames
import Feuilleton.Text.Word

/-!
# Character references

An ampersand with a number or a name stands for a character. Some names also count without a
semicolon, the longest one that fits; but not in the value of an attribute if what follows could
belong to a query.
-/

namespace Feuilleton.Markup

structure ReferenceTable where
  named : List (String × String)
  bare : List String

def fullReferences : ReferenceTable := ⟨characterNames, bareNames⟩

def basicReferences : ReferenceTable := ⟨basicCharacterNames, basicBareNames⟩

/-! ## Numbers -/

def hexValue? (c : Char) : Option Nat :=
  if '0' ≤ c ∧ c ≤ '9' then some (c.toNat - 48)
  else if 'a' ≤ c ∧ c ≤ 'f' then some (c.toNat - 87)
  else if 'A' ≤ c ∧ c ≤ 'F' then some (c.toNat - 55)
  else none

def isDecimal (c : Char) : Bool :=
  '0' ≤ c && c ≤ '9'

def isHex (c : Char) : Bool :=
  (hexValue? c).isSome

def valueIn (base : Nat) (digits : List Char) : Nat :=
  digits.foldl (fun value c => base * value + (hexValue? c).getD 0) 0

/-- Numbers of control characters that stand for the characters of a Windows code page. -/
def windowsCharacters : List (Nat × Char) := [
  (0x80, '€'), (0x82, '‚'), (0x83, 'ƒ'), (0x84, '„'), (0x85, '…'), (0x86, '†'), (0x87, '‡'),
  (0x88, 'ˆ'), (0x89, '‰'), (0x8A, 'Š'), (0x8B, '‹'), (0x8C, 'Œ'), (0x8E, 'Ž'), (0x91, '‘'),
  (0x92, '’'), (0x93, '“'), (0x94, '”'), (0x95, '•'), (0x96, '–'), (0x97, '—'), (0x98, '˜'),
  (0x99, '™'), (0x9A, 'š'), (0x9B, '›'), (0x9C, 'œ'), (0x9E, 'ž'), (0x9F, 'Ÿ')]

/-- Numbers that belong to no character stand for U+FFFD. -/
def numbered (n : Nat) : Char :=
  match windowsCharacters.lookup n with
  | some c => c
  | none => if n = 0 ∨ ¬n.isValidChar then '\ufffd' else Char.ofNat n

/-! ## References -/

/-- What a reference stands for, and how many characters behind the ampersand belong to it. -/
structure Reference where
  text : List Char
  length : Nat
  deriving DecidableEq, Repr

def semicolonLength (cs : List Char) : Nat :=
  if cs.head? = some ';' then 1 else 0

/-- A reference by number whose digits stand behind `lead` characters. -/
def numericReference? (base lead : Nat) (isDigit : Char → Bool) (cs : List Char) :
    Option Reference :=
  let digits := cs.takeWhile isDigit
  if digits.isEmpty then none
  else
    some {
      text := [numbered (valueIn base digits)]
      length := lead + digits.length + semicolonLength (cs.dropWhile isDigit) }

/-- Characters after which a name without a semicolon is no reference in an attribute. -/
def continuesQuery (cs : List Char) : Bool :=
  cs.head?.any fun c => Text.isAsciiAlphanumeric c || c == '='

def longer (a b : String) : String :=
  if a.length < b.length then b else a

/-- The longest name that counts without a semicolon. -/
def ReferenceTable.bareName? (table : ReferenceTable) (cs : List Char) : Option String :=
  match table.bare.filter (fun name => name.toList.isPrefixOf cs) with
  | [] => none
  | name :: names => some (names.foldl longer name)

def ReferenceTable.textOf (table : ReferenceTable) (name : String) : List Char :=
  ((table.named.lookup name).getD "").toList

def ReferenceTable.named? (table : ReferenceTable) (inAttribute : Bool) (cs : List Char) :
    Option Reference :=
  let name := cs.takeWhile Text.isAsciiAlphanumeric
  let ended := (cs.drop name.length).head? = some ';'
  match if ended then table.named.lookup (String.ofList name) else none with
  | some text => some ⟨text.toList, name.length + 1⟩
  | none =>
      match table.bareName? cs with
      | none => none
      | some bare =>
          if inAttribute && continuesQuery (cs.drop bare.length) then none
          else some ⟨table.textOf bare, bare.length⟩

/-- The reference behind an ampersand. -/
def ReferenceTable.find? (table : ReferenceTable) (inAttribute : Bool) :
    List Char → Option Reference
  | '#' :: 'x' :: rest => numericReference? 16 2 isHex rest
  | '#' :: 'X' :: rest => numericReference? 16 2 isHex rest
  | '#' :: rest => numericReference? 10 1 isDecimal rest
  | cs => table.named? inAttribute cs

/-- Replaces all references; the next `skip` characters belong to one that is replaced. -/
def ReferenceTable.decodeFrom (table : ReferenceTable) (inAttribute : Bool) (skip : Nat) :
    List Char → List Char
  | [] => []
  | c :: rest =>
      match skip with
      | left + 1 => table.decodeFrom inAttribute left rest
      | 0 =>
          if c = '&' then
            match table.find? inAttribute rest with
            | some reference =>
                reference.text ++ table.decodeFrom inAttribute reference.length rest
            | none => c :: table.decodeFrom inAttribute 0 rest
          else c :: table.decodeFrom inAttribute 0 rest

/-- The value of an attribute as it is meant. -/
def ReferenceTable.attributeValue (table : ReferenceTable) (raw : List Char) : String :=
  String.ofList (table.decodeFrom true 0 raw)

end Feuilleton.Markup

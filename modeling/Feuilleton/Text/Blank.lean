/-!
# Blank characters, trimming and line ends

Blank are the characters of the Unicode property White_Space and the four information separators
U+001C to U+001F. Zero-width characters such as U+200B and U+FEFF are not blank.
-/

namespace Feuilleton.Text

def isBlank (c : Char) : Bool :=
  let n := c.toNat
  (9 ≤ n && n ≤ 13) || (28 ≤ n && n ≤ 32) || n == 0x85 || n == 0xA0 || n == 0x1680 ||
    (0x2000 ≤ n && n ≤ 0x200A) || n == 0x2028 || n == 0x2029 || n == 0x202F || n == 0x205F ||
    n == 0x3000

/-! ## Trimming -/

def dropEndWhile (p : Char → Bool) (cs : List Char) : List Char :=
  (cs.reverse.dropWhile p).reverse

def trimList (cs : List Char) : List Char :=
  dropEndWhile isBlank (cs.dropWhile isBlank)

def trim (s : String) : String :=
  String.ofList (trimList s.toList)

def trimEnd (s : String) : String :=
  String.ofList (dropEndWhile isBlank s.toList)

/-- Only blanks, or nothing at all. -/
def isBlankText (s : String) : Bool :=
  s.toList.all isBlank

/-- Pieces between blanks, in order; none of them is empty. -/
def blankSeparated (cs : List Char) : List (List Char) :=
  go [] cs
where
  go (word : List Char) : List Char → List (List Char)
    | [] => if word.isEmpty then [] else [word.reverse]
    | c :: rest =>
        if isBlank c then
          if word.isEmpty then go [] rest else word.reverse :: go [] rest
        else go (c :: word) rest

def words (s : String) : List String :=
  (blankSeparated s.toList).map String.ofList

/-! ## Line ends -/

/-- A carriage return, alone or before a line feed, ends a line like a line feed. -/
def unifyLineEnds : List Char → List Char
  | '\r' :: '\n' :: rest => '\n' :: unifyLineEnds rest
  | '\r' :: rest => '\n' :: unifyLineEnds rest
  | c :: rest => c :: unifyLineEnds rest
  | [] => []

end Feuilleton.Text

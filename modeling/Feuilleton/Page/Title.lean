import Feuilleton.Text.Blank

/-!
# Page titles

The title is the text between the first `title` tag and the next tag that closes one. In tag names
letter case does not count, and every form of the letter i is one.
-/

namespace Feuilleton.Page

def isTitleLetter (letter c : Char) : Bool :=
  c.toLower == letter || (letter == 'i' && (c == 'İ' || c == 'ı'))

def afterName? : List Char → List Char → Option (List Char)
  | [], rest => some rest
  | letter :: name, c :: rest => if isTitleLetter letter c then afterName? name rest else none
  | _ :: _, [] => none

/-- The text before the next closing tag; none if there is no such tag. -/
def untilClosed? : List Char → Option (List Char)
  | [] => none
  | c :: rest =>
      if (afterName? "</title>".toList (c :: rest)).isSome then some []
      else (untilClosed? rest).map (c :: ·)

/-- What follows the first opening tag. -/
def afterOpened? : List Char → Option (List Char)
  | [] => none
  | c :: rest =>
      match afterName? "<title".toList (c :: rest) with
      | some rest =>
          match rest.dropWhile (· != '>') with
          | _ :: rest => some rest
          | [] => none
      | none => afterOpened? rest

def titleChars? (cs : List Char) : Option (List Char) :=
  (afterOpened? cs).bind untilClosed?

def titleOf (body : String) : Option String :=
  (titleChars? body.toList).map fun title => String.ofList (Text.trimList title)

end Feuilleton.Page

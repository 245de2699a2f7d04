import Feuilleton.Document.Removal
import Feuilleton.Failure
import Feuilleton.Text.Word

/-!
# Decoys

Some sites put paragraphs into their chapters that a style sheet hides from readers. The classes
that an article's own style sheets declare mark these paragraphs.
-/

namespace Feuilleton.ChapterPage

open Document

/-! ## Style sheets -/

def isClassChar (c : Char) : Bool :=
  Text.isWord c || c == '-'

/-- Blanks and then a comma or an opening brace. -/
def endsSelector (cs : List Char) : Bool :=
  match cs.dropWhile Text.isBlank with
  | c :: _ => c == ',' || c == '\x7b'
  | [] => false

/-- The classes of the selectors in a style sheet. -/
def declaredClasses : List Char → List String
  | [] => []
  | c :: rest =>
      let name := rest.takeWhile isClassChar
      if c = '.' ∧ name ≠ [] ∧ endsSelector (rest.dropWhile isClassChar) then
        String.ofList name :: declaredClasses rest
      else declaredClasses rest

def styleText (style : Node) : String :=
  (style.onlyText?).getD ""

/-- The classes declared by the style sheets directly inside an article. -/
def articleClasses (article : Node) : List String :=
  (article.children.filter (·.isNamed "style")).flatMap fun style =>
    declaredClasses (styleText style).toList

def hiddenClasses (nodes : List Node) : List String :=
  (((preorder nodes).filter (·.isNamed "article")).flatMap articleClasses).eraseDups

/-! ## Paragraphs -/

def isParagraph (node : Node) : Bool :=
  node.isNamed "p"

def isDecoy (hidden : List String) (node : Node) : Bool :=
  isParagraph node && node.classes.any hidden.contains

/-- Removes a paragraph from a list that was made before if it is a decoy. A paragraph that is gone
already, together with an outer one, cannot be judged any more. -/
def dropDecoy (hidden : List String) (gone : List Span) (paragraph : Numbered) :
    Except Failure (List Span) :=
  if isGone gone paragraph.2 then .error .removedParagraph
  else .ok (if isDecoy hidden paragraph.1 then spanOf paragraph :: gone else gone)

def withoutDecoys (nodes : List Node) : Except Failure (List Node) := do
  let paragraphs := (numberedFrom 0 nodes).filter (isParagraph ·.1)
  let gone ← paragraphs.foldlM (dropDecoy (hiddenClasses nodes)) []
  .ok (remainingFrom gone 0 nodes)

end Feuilleton.ChapterPage

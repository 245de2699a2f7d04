import Feuilleton.ChapterPage.Decoy
import Feuilleton.Document.Reading
import Feuilleton.Document.Render
import Feuilleton.Grammar.Basic

/-!
# The text of a chapter

A chapter is what stands in the paragraphs of one container, without decoys, advertisements and
scripts.
-/

namespace Feuilleton.ChapterPage

open Document

/-- The class of advertisements. -/
def advertisementClass : String := "code-block"

def container? (g : Grammar) (nodes : List Node) : Option Node :=
  (preorder nodes).find? (·.hasClass g.contentClass)

/-- What is left inside the container. -/
def cleaned (g : Grammar) (container : Node) : List Node :=
  let inner :=
    if g.stripStyleClasses then removeAll (·.hasClass advertisementClass) container.children
    else container.children
  removeAll (·.isNamed "script") inner

def paragraphs (g : Grammar) (container : Node) : List Node :=
  (preorder (cleaned g container)).filter isParagraph

def shownNodes (g : Grammar) (nodes : List Node) : Except Failure (List Node) :=
  if g.stripStyleClasses then withoutDecoys nodes else .ok nodes

/-- The paragraphs of a document as lines; empty if there is no container. -/
def contentOf (g : Grammar) (nodes : List Node) : Except Failure String := do
  let nodes ← shownNodes g nodes
  match container? g nodes with
  | none => .ok ""
  | some container => .ok (Text.join "\n" ((paragraphs g container).map Node.render))

/-- The text of a chapter's page. -/
def content (g : Grammar) (html : String) : Except Failure String :=
  contentOf g (Document.ofPage html)

end Feuilleton.ChapterPage

import Feuilleton.Access.Response
import Feuilleton.Access.Verdict
import Feuilleton.Encoding.Basic
import Feuilleton.Extraction.Outcome
import Feuilleton.Template.Basic

/-!
# Failures

Everything that can keep a page from being fetched or read, by its cause. The message says what a
reader is told.
-/

namespace Feuilleton

inductive Failure
  /-- A page from another host or one that keeps robots out. -/
  | blocked (reason url : String) (response : Option (String × Int))
  /-- No usable response; `cause` says why if there was none at all. -/
  | unreachable (url : String) (status : Int) (cause : Option String)
  | emptyDocument
  | structureMismatch (grammarId site path : String)
  | unknownSite (id : String)
  | invalidGrammar (file : String) (issues : List Issue)
  | noDirectory
  | invalidSettings (issues : List Issue)
  | template (error : Template.Error)
  | encoding (error : EncodingError)
  | extraction (error : ExtractionError)
  /-- A paragraph that lost its place together with an outer one. -/
  | removedParagraph
  | unusableFile
  deriving DecidableEq, Repr

namespace Failure

def message : Failure → String
  | blocked reason url _ =>
      "Access blocked (" ++ reason ++ ") for " ++ (if url.isEmpty then "page" else url) ++
        ": open the site in a browser or check whether it moved"
  | unreachable url status _ => "Could not reach site (" ++ Text.intText status ++ "): " ++ url
  | emptyDocument => "Cannot tokenize an empty document"
  | structureMismatch grammarId _ _ =>
      "Page structure not recognized by grammar '" ++ grammarId ++ "'"
  | unknownSite id => "No grammar for site '" ++ id ++ "'"
  | invalidGrammar file _ => "Invalid grammar file " ++ file
  | noDirectory => "Grammar store has no directory to write to"
  | invalidSettings _ => "Invalid SERIAL_PARSER_* setting"
  | template error => error.message
  | encoding error => error.message
  | extraction error => error.message
  | removedParagraph => "'NoneType' object has no attribute 'get'"
  | unusableFile => ""

/-- Pages and sites fail in known ways; a reader of many pages goes on after these failures. -/
def isExpected : Failure → Bool
  | blocked _ _ _ => true
  | unreachable _ _ _ => true
  | emptyDocument => true
  | structureMismatch _ _ _ => true
  | unknownSite _ => true
  | invalidGrammar _ _ => true
  | noDirectory => true
  | invalidSettings _ => true
  | template _ => false
  | encoding _ => false
  | extraction _ => false
  | removedParagraph => false
  | unusableFile => false

end Failure

/-- Access to sites: the answer to every request. -/
abbrev Transport := Request → Except Failure Response

end Feuilleton

import Feuilleton.Text.Blank
import Feuilleton.Text.Lowercase

/-!
# Labels

Labels are compared in lowercase, without surrounding blanks and without colons at the end:
"Status :" and "status" are one label.
-/

namespace Feuilleton

def isColon (c : Char) : Bool :=
  c == ':' || c == '：'

def normalizeLabel (text : String) : String :=
  String.ofList (Text.trimList (Text.dropEndWhile isColon
    (Text.trimList (Text.lower text).toList)))

end Feuilleton

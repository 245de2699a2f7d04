import Feuilleton.Text.Blank
import Feuilleton.Text.Lowercase

/-!
# Price labels

A chapter whose price label is one of these words, or blank, can be read without paying.
-/

namespace Feuilleton

def freePrices : List String := ["free", "gratuit", "مجاني", "livre", ""]

def isFree (price : String) : Bool :=
  freePrices.contains (Text.trim (Text.lower price))

end Feuilleton

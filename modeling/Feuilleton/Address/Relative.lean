import Feuilleton.Text.Search

/-!
# Paths relative to a site

A link that leads to another host keeps only its path, which then counts on the configured site.
-/

namespace Feuilleton.Address

/-- What follows the third slash; none if there are fewer. -/
def afterThirdSlash? (url : String) : Option String :=
  match Text.splitList '/' url.toList with
  | _ :: _ :: _ :: part :: parts =>
      some (String.ofList (['/'].intercalate (part :: parts)))
  | _ => none

def relativePath (url site : String) : String :=
  if !site.isEmpty && Text.occursIn site url then Text.eraseFirst site url
  else if Text.occursIn "://" url then (afterThirdSlash? url).getD url
  else url

end Feuilleton.Address

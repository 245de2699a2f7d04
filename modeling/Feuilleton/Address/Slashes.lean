import Feuilleton.Text.Search

/-!
# Doubled slashes

Joining the address of a site with a path may double the slash between them. Every run of slashes
behind the scheme becomes a single one; behind a colon a run keeps two.
-/

namespace Feuilleton.Address

/-- Shortens runs of slashes; `allowed` more slashes may still be kept of the present run. -/
def collapseFrom (allowed : Nat) : List Char → List Char
  | [] => []
  | c :: rest =>
      if c = '/' then
        match allowed with
        | 0 => collapseFrom 0 rest
        | kept + 1 => '/' :: collapseFrom kept rest
      else c :: collapseFrom (if c = ':' then 2 else 1) rest

def collapseRuns (s : String) : String :=
  String.ofList (collapseFrom 1 s.toList)

def collapseSlashes (url : String) : String :=
  match Text.cut? "://" url with
  | some (scheme, rest) => scheme ++ "://" ++ collapseRuns rest
  | none => collapseRuns url

end Feuilleton.Address

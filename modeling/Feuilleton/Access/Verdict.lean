import Feuilleton.Schema.Scalar
import Feuilleton.Text.Blank
import Feuilleton.Text.Search

/-!
# Verdicts on fetched pages

A page counts as the page that was asked for if it comes from the same host and is not one of the
pages that keep robots out. The last label of a host does not count, so a site may move to another
top-level domain.
-/

namespace Feuilleton

structure Verdict where
  passed : Bool
  reason : Option String := none
  deriving DecidableEq, Repr

namespace Verdict

def pass : Verdict := { passed := true }

def block (reason : String) : Verdict := { passed := false, reason := some reason }

def encode (verdict : Verdict) : Json :=
  .obj [("passed", .bool verdict.passed), ("reason", .ofOption .str verdict.reason)]

def decode : Decoder Verdict :=
  Decoder.record fun members =>
    Verdict.mk <$> Decoder.required "passed" Decoder.bool members
      <*> Decoder.optional "reason" none (Decoder.nullable Decoder.text) members

/-! ## Hosts -/

def afterScheme (url : String) : String :=
  match Text.cut? "://" url with
  | some (_, rest) => rest
  | none => url

def hostOf (url : String) : String :=
  String.ofList ((afterScheme url).toList.takeWhile (· != '/'))

/-- The labels of the host without the last one. A number behind a colon belongs to the last
label. -/
def hostLabels (url : String) : List String :=
  (Text.split '.' (hostOf url)).dropLast

/-! ## Challenges -/

/-- Titles of pages that only ask the visitor to wait or to prove something. -/
def challengeTitles : List String := [
  "Bot Verification",
  "You are being redirected...",
  "Un instant...",
  "Just a moment...",
  "Redirecting..."]

def isChallenge (title : String) : Bool :=
  challengeTitles.contains (Text.trim title)

def redirected : String := "redirected"

def challengePage : String := "challenge-page"

def ofPage (requestedUrl finalUrl : String) (title : Option String) : Verdict :=
  if hostLabels requestedUrl ≠ hostLabels finalUrl then block redirected
  else if title.any isChallenge then block challengePage
  else pass

end Verdict

end Feuilleton

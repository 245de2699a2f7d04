import Feuilleton.Failure
import Feuilleton.Page.Title

/-!
# Guarded access

The body of a response is handed on only if it is the page that was asked for. A search without
results is often answered with a failure status, which is no failure then.
-/

namespace Feuilleton

def Response.verdict (response : Response) (requestedUrl : String) : Verdict :=
  Verdict.ofPage requestedUrl response.finalUrl (Page.titleOf response.body)

/-- The body of a response that may be read. -/
def ensureAccess (requestedUrl : String) (response : Response) (search : Bool) :
    Except Failure String :=
  if !response.succeeded && !search then
    .error (.unreachable requestedUrl response.status none)
  else
    let verdict := response.verdict requestedUrl
    if verdict.passed then .ok response.body
    else
      .error (.blocked (verdict.reason.getD "") requestedUrl
        (some (response.finalUrl, response.status)))

end Feuilleton

import Feuilleton.OrderedMap
import Feuilleton.Schema.Scalar

/-!
# Requests and responses

What a reader asks a site for and what comes back. The final address of a response is where
redirects ended.
-/

namespace Feuilleton

structure Request where
  url : String
  method : String := "GET"
  data : Option (OrderedMap String) := none
  referrer : Option String := none
  deriving DecidableEq, Repr

structure Response where
  status : Int
  finalUrl : String
  body : String := ""
  deriving DecidableEq, Repr

namespace Response

def succeeded (response : Response) : Bool :=
  200 ≤ response.status && response.status < 300

def encode (response : Response) : Json :=
  .obj [
    ("status", .int response.status),
    ("final_url", .str response.finalUrl),
    ("body", .str response.body)]

def decode : Decoder Response :=
  Decoder.record fun members =>
    Response.mk <$> Decoder.required "status" Decoder.int members
      <*> Decoder.required "final_url" Decoder.text members
      <*> Decoder.optional "body" "" Decoder.text members

end Response

end Feuilleton

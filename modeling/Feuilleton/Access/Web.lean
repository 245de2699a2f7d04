import Feuilleton.Address.Slashes
import Feuilleton.Encoding.Basic
import Feuilleton.Failure

/-!
# Access over the web

A client sends requests with its name and a time limit and reads the replies as text. Servers that
declare no encoding, or the one that is assumed where none is declared, are not believed: what the
bytes look like counts then.
-/

namespace Feuilleton.Web

def defaultUserAgent : String :=
  "Mozilla/5.0 (Windows NT 10.0; Win64; x64) AppleWebKit/537.36 (KHTML, like Gecko) " ++
    "Chrome/125.0.0.0 Safari/537.36"

def acceptLanguage : String := "en-US,en;q=0.8,ar;q=0.6,es;q=0.6,fr;q=0.5"

def defaultTimeout : Binary64 := .ofInt 15

structure Client where
  userAgent : String := defaultUserAgent
  timeout : Binary64 := defaultTimeout
  deriving DecidableEq, Repr

/-- A client with a name of its own, if it is given one. -/
def Client.named (userAgent : Option String) (timeout : Binary64) : Client where
  userAgent := match userAgent with
    | some name => if name.isEmpty then defaultUserAgent else name
    | none => defaultUserAgent
  timeout := timeout

/-- A reply as it comes from a server; the final address is where redirects ended. -/
structure Reply where
  status : Int := 200
  finalUrl : String
  content : Encoding.Bytes := []
  encoding : Option String := none
  apparentEncoding : Option String := none
  deriving DecidableEq, Repr

/-- The answer of the network, or why there is none. -/
abbrev Network := Request → Except String Reply

/-! ## Requests -/

/-- The request that is sent. -/
def outgoing (request : Request) : Request :=
  { request with
    url := Address.collapseSlashes request.url
    referrer := request.referrer.filter (!·.isEmpty) }

/-! ## Replies -/

def assumedEncoding : String := "iso-8859-1"

def Reply.effectiveEncoding (reply : Reply) : Option String :=
  match reply.encoding with
  | none => reply.apparentEncoding
  | some label => if Text.lower label == assumedEncoding then reply.apparentEncoding else some label

/-- The text of a reply; what names no encoding is read as UTF-8. -/
def Reply.text (reply : Reply) : Except EncodingError String :=
  if reply.content.isEmpty then .ok ""
  else match reply.effectiveEncoding.bind Encoding.ofLabel? with
    | some encoding => encoding.decode reply.content
    | none => .ok (Encoding.Utf8.decode reply.content)

def Reply.toResponse (reply : Reply) : Except Failure Response :=
  match reply.text with
  | .ok body => .ok { status := reply.status, finalUrl := reply.finalUrl, body }
  | .error e => .error (.encoding e)

def transport (network : Network) : Transport := fun request =>
  let request := outgoing request
  match network request with
  | .ok reply => reply.toResponse
  | .error cause => .error (.unreachable request.url 0 (some cause))

end Feuilleton.Web

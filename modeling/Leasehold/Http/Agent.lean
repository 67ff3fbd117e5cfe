import Leasehold.Dialogue
import Leasehold.Http.Wire
import Leasehold.Url.Addressable
import Leasehold.Url.Parser

/-!
# HTTP agent

What happens between a request of the client and the messages on the wire.  The
agent adds the header fields of its own, follows redirects, and turns what goes
wrong on the way into errors.  What the other end of the connection answers to
a message is left open.
-/

set_option autoImplicit false

namespace Leasehold.Http

structure WireRequest where
  method : String
  url : Url
  headers : List (String × String)
  body : Option String
  deriving DecidableEq, Repr

def WireRequest.target (r : WireRequest) : String :=
  match r.method, r.url.host with
  | "CONNECT", some h => String.ofList (r.url.authorityBelow h)
  | _, _ => r.url.pathAndQuery

/-- A conversation on the wire.  Each request has a connection of its own, and is answered with the
octets that arrive there, unless the connection fails. -/
abbrev WireExchange (α : Type) := Dialogue WireRequest (fun _ => Option (List UInt8)) α

structure Agent where
  name : Option String := none

namespace Agent

def redirectLimit : Nat := 10

/-- The agent of some settings; its name has to be a header value. -/
def ofName (name : String) : Except VaultError Agent :=
  if validHeaderValue name then .ok { name := some name } else .error .http

def create (url : Url) : Except VaultError Unit :=
  match url.hostText? with
  | some _ => .ok ()
  | none => .error (.invalidRequest ("URL has no host: " ++ toString url))

/-- The fields of a request as they are sent: a body is marked as JSON, beside a mark that the
request has already. -/
def fields (a : Agent) (r : Request) : List (String × String) :=
  r.headers ++
    (if r.body.isSome then [("content-type", "application/json")] else []) ++
    match a.name with
    | some name =>
        if (Dictionary.get? "user-agent" r.headers).isSome then [] else [("user-agent", name)]
    | none => []

def withoutBody (r : WireRequest) : WireRequest :=
  { r with
    headers := r.headers.filter fun h =>
      !(["content-type", "content-length", "content-encoding", "transfer-encoding"].contains h.1)
    body := none }

/-- The request that a redirect with some status asks for, up to its URL. -/
def redirected? (status : Nat) (r : WireRequest) : Option WireRequest :=
  if status = 301 ∨ status = 302 then
    some (if r.method = "POST" then { withoutBody r with method := "GET" } else r)
  else if status = 303 then
    some { withoutBody r with method := if r.method = "HEAD" then "HEAD" else "GET" }
  else if status = 307 ∨ status = 308 then some r
  else none

/-- The request by which a redirect is followed.  A redirect to where no message can be sent is
none. -/
def next? (r : WireRequest) (response : WireResponse) : Option WireRequest := do
  let again ← redirected? response.status r
  match r.url.join (← response.location?) with
  | .ok url => if url.addressable then some { again with url } else none
  | .error _ => none

def receive (response : WireResponse) : Except VaultError Response :=
  match response.body with
  | some body => .ok ⟨response.status, body⟩
  | none => .error (.unavailable "error decoding response body")

def send : Nat → WireRequest → WireExchange (Except VaultError Response)
  | left, r =>
      if (r.url.scheme = "http" ∨ r.url.scheme = "https") ∧ r.url.addressable then
        .ask r fun octets =>
          match octets.bind (WireResponse.ofOctets? r.method) with
          | none => .done (.error (.unavailable "error sending request"))
          | some response =>
              match next? r response with
              | none => .done (receive response)
              | some again =>
                  match left with
                  | 0 => .done (.error (.unavailable "error following redirect"))
                  | left + 1 => send left again
      else .done (.error (.invalidRequest "builder error"))

def execute (a : Agent) (r : Request) : WireExchange (Except VaultError Response) :=
  send redirectLimit ⟨r.method, r.url, a.fields r, r.body⟩

end Agent

end Leasehold.Http

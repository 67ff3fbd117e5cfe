import Leasehold.Config
import Leasehold.Http.Agent
import Leasehold.Http.Transport
import Leasehold.Lease.Basic
import Leasehold.Token
import Leasehold.Vault.Wire

/-!
# Client

The operations of the server's API as dialogues.  Every operation creates one
request, gives it the token and the namespace, executes it, and maps a status
that is no success to the error that it signals.
-/

set_option autoImplicit false

namespace Leasehold

open Http (Exchange Query Request Response Transport)

structure Client where
  endpoint : Endpoint
  namespace_ : Option String := none
  authentication : Authentication
  transport : Transport

abbrev Call (α : Type) := ExceptT VaultError Exchange α

namespace Client

def ofConfig (c : Config) : Except VaultError Client := do
  c.validate
  let _ ← Http.Agent.ofName c.http.userAgent
  return {
    endpoint := ← c.endpoint
    namespace_ := c.namespace_
    authentication := c.authentication
    transport := Transport.plain.withRetries c.retry }

/-- What the server says of an error: its messages, or else the text of the body. -/
def errorMessage (r : Response) : String :=
  match r.tree?.bind Wire.errors? with
  | some (m :: ms) => String.intercalate "; " (m :: ms)
  | _ => r.text

/-- The error that a status signals for a request to `path`; none for a success. -/
def statusError? (path : String) (r : Response) : Option VaultError :=
  let message := errorMessage r
  if r.success then none
  else if r.status = 400 then some (.invalidRequest (path ++ ": " ++ message))
  else if r.status = 401 ∨ r.status = 403 then
    if "auth/".toList.isPrefixOf path.toList then
      some (.authenticationFailed (path ++ ": " ++ message))
    else some (.permissionDenied (path ++ ": " ++ message))
  else if r.status = 404 then some (.secretNotFound path)
  else if r.status = 429 then some .rateLimited
  else if r.serverError then
    some (.unavailable ("Status " ++ Http.statusText r.status ++ ": " ++ message))
  else
    some (.invalidRequest
      ("Status " ++ Http.statusText r.status ++ " for " ++ path ++ ": " ++ message))

def headers (c : Client) (token : Option String) : Except VaultError Http.Headers := do
  let h : Http.Headers ←
    match token with
    | none => pure []
    | some t =>
        if Http.validHeaderValue t then pure (Dictionary.put "x-vault-token" t [])
        else throw (.invalidRequest "token is not a valid header value")
  match c.namespace_ with
  | none => return h
  | some n =>
      if Http.validHeaderValue n then return Dictionary.put "x-vault-namespace" n h
      else throw (.invalidConfig ("namespace " ++ n ++ " is not a valid header value"))

/-- One request to an API path and its response, which is a success. -/
def send (c : Client) (method path : String) (token body : Option String) : Call Response := do
  let url ← liftExcept (c.endpoint.apiUrl path)
  ExceptT.mk (c.transport.create method url)
  let headers ← liftExcept (c.headers token)
  let response ← ExceptT.mk (c.transport.execute { method, url, headers, body })
  match statusError? path response with
  | some e => throw e
  | none => return response
where
  liftExcept {α : Type} (r : Except VaultError α) : Call α := ExceptT.mk (.done r)

def decode {α : Type} (read : Json.Tree → Option α) (r : Response) : Call α :=
  match r.tree?.bind read with
  | some a => return a
  | none => throw .serialization

def clock : Call Instant :=
  ExceptT.lift (Dialogue.question (R := Query.Answer) Query.clock : Exchange Instant)

def secretPath (path : String) : String := Text.withoutLeadingSlashes path

def read (c : Client) (token : String) (path : String) : Call Secret := do
  let path := secretPath path
  let response ← c.send "GET" path (some token) none
  let body ← decode Wire.read? response
  let now ← clock
  let lease : Lease :=
    ⟨body.leaseId, path, body.data, now, .ofTtlSecs body.leaseDuration, body.renewable⟩
  return ⟨body.data, if body.leaseId = "" then none else some lease⟩

/-- Renews a lease for its validity once more.  What the server grants is finite, also when it
grants nothing. -/
def renewLease (c : Client) (token : String) (l : Lease) : Call Lease := do
  if !l.renewable then throw (.leaseNotRenewable l.id)
  let response ←
    c.send "PUT" "sys/leases/renew" (some token) (some (Wire.renewBody l.id l.validity))
  let body ← decode Wire.renewal? response
  let now ← clock
  return l.renewed now (.finite (.ofSecs body.leaseDuration)) body.renewable

def revokeLease (c : Client) (token : String) (leaseId : String) : Call Unit := do
  let _ ← c.send "PUT" "sys/leases/revoke" (some token) (some (Wire.revokeBody leaseId))

def lookupSelf (c : Client) (token : String) : Call Token := do
  let response ← c.send "GET" "auth/token/lookup-self" (some token) none
  let body ← decode Wire.lookup? response
  return ⟨token, ← clock, .ofTtlSecs body.ttl, body.renewable⟩

def loginPath (mount : String) : String := "auth/" ++ Text.withoutOuterSlashes mount ++ "/login"

def readText (file : String) : Exchange (Except String String) :=
  Dialogue.question (R := Query.Answer) (Query.readText file)

def kubernetesLogin (c : Client) (role jwtPath mount : String) : Call Token := do
  let jwt ←
    match ← ExceptT.lift (readText jwtPath) with
    | .ok text => pure text
    | .error reason =>
        throw (.authenticationFailed
          ("cannot read service account token " ++ jwtPath ++ ": " ++ reason))
  let path := loginPath mount
  let response ← c.send "POST" path none (some (Wire.loginBody role (Text.trimmed jwt)))
  let grant ← decode Wire.auth? response
  if grant.clientToken = "" then
    throw (.authenticationFailed (path ++ ": no client token in response"))
  return ⟨grant.clientToken, ← clock, .ofTtlSecs grant.leaseDuration, grant.renewable⟩

def login (c : Client) : Call Token :=
  match c.authentication with
  | .token value => c.lookupSelf value
  | .kubernetes role jwtPath mount => c.kubernetesLogin role jwtPath mount

def renewToken (c : Client) (t : Token) : Call Token := do
  let response ←
    c.send "POST" "auth/token/renew-self" (some t.value) (some Wire.emptyBody)
  let grant ← decode Wire.auth? response
  let value := if grant.clientToken = "" then t.value else grant.clientToken
  return ⟨value, ← clock, .ofTtlSecs grant.leaseDuration, grant.renewable⟩

def description (c : Client) : String :=
  "VaultClient \x7b endpoint: " ++ c.endpoint.baseUrl ++ ", namespace: " ++
    c.namespace_.getD "none" ++ ", .. \x7d"

end Client

end Leasehold

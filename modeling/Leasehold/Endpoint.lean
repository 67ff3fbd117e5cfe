import Leasehold.Error
import Leasehold.Url.Parser

/-!
# Endpoint

Where the server is: scheme, host and port, and the path below which its API
lives.  `Endpoint.ofUri` takes an endpoint out of a URI, `Endpoint.baseUrl`
writes it down and `Endpoint.apiUrl` resolves an API path against that.
-/

set_option autoImplicit false

namespace Leasehold

structure Endpoint where
  scheme : String := "https"
  host : String := "localhost"
  port : Nat := 8200
  path : String := "v1"
  deriving DecidableEq, Repr

namespace Endpoint

def withScheme (e : Endpoint) (scheme : String) : Except VaultError Endpoint :=
  if scheme = "http" ∨ scheme = "https" then .ok { e with scheme }
  else .error (.invalidConfig ("unsupported scheme: " ++ scheme))

def withPath (e : Endpoint) (path : String) : Endpoint :=
  { e with path := Text.withoutOuterSlashes path }

/-- The endpoint that a URI names.  Without a port it has the usual one of the scheme, without a
path the API lives below `v1`. -/
def ofUri (uri : String) : Except VaultError Endpoint := do
  let url ←
    match Url.parse uri with
    | .ok u => pure u
    | .error e => throw (.invalidConfig ("invalid Vault URI " ++ uri ++ ": " ++ e.message))
  let e ← ({} : Endpoint).withScheme url.scheme
  let host ←
    match url.hostText? with
    | some h => pure h
    | none => throw (.invalidConfig ("Vault URI " ++ uri ++ " has no host"))
  let port ←
    match url.effectivePort? with
    | some p => pure p
    | none => throw (.invalidConfig ("Vault URI " ++ uri ++ " has no port"))
  let path := Text.withoutOuterSlashes url.pathText
  return { e with host, port, path := if path = "" then "v1" else path }

def baseUrl (e : Endpoint) : String :=
  e.scheme ++ "://" ++ e.host ++ ":" ++ toString e.port ++ "/" ++
    (if e.path = "" then "" else e.path ++ "/")

def apiUrl (e : Endpoint) (path : String) : Except VaultError Url :=
  match (Url.parse e.baseUrl).bind (·.join (Text.withoutLeadingSlashes path)) with
  | .ok u => .ok u
  | .error err => .error (.invalidRequest ("invalid API path " ++ path ++ ": " ++ err.message))

end Endpoint

theorem eq_ok_of_toOption {ε α : Type} {x : Except ε α} {a : α} (found : x.toOption = some a) :
    x = .ok a := by
  cases x with
  | ok b => cases found; rfl
  | error e => cases found

end Leasehold

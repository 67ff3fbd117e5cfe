import Leasehold.Endpoint
import Leasehold.RenewalWindow
import Leasehold.Retry

/-!
# Configuration

The settings of a client and of the lifecycles above it, their defaults and
their validation, which names the first problem.
-/

set_option autoImplicit false

namespace Leasehold

inductive Authentication where
  | token (value : String)
  | kubernetes (role jwtPath mount : String)
  deriving DecidableEq, Repr

namespace Authentication

def ofRole (role : String) : Authentication :=
  .kubernetes role "/var/run/secrets/kubernetes.io/serviceaccount/token" "kubernetes"

def validate : Authentication → Except VaultError Unit
  | .token value =>
      if Text.blank value then .error (.invalidConfig "token authentication requires a token")
      else .ok ()
  | .kubernetes role _ mount =>
      if role = "" then .error (.invalidConfig "kubernetes authentication requires a role")
      else if mount = "" then
        .error (.invalidConfig "kubernetes authentication requires a mount path")
      else .ok ()

end Authentication

structure SessionConfig where
  enabled : Bool := true
  interval : Duration := .ofSecs 1
  margin : Duration := .ofSecs 5
  deriving DecidableEq, Repr

def SessionConfig.window (c : SessionConfig) : RenewalWindow := ⟨c.interval, c.margin⟩

/-- Settings of the lease lifecycle.  Without `endpoints` every lease is managed, with them only
leases of paths below one of them. -/
structure LeaseConfig where
  enabled : Bool := true
  interval : Option Duration := none
  margin : Option Duration := none
  endpoints : Option (List String) := none
  eventCapacity : Nat := 64
  deriving DecidableEq, Repr

namespace LeaseConfig

def defaultWindow : RenewalWindow := ⟨.ofSecs 10, .ofSecs 60⟩

/-- The window of lease renewals; the settings count only while the lifecycle is enabled. -/
def window (c : LeaseConfig) : RenewalWindow :=
  if c.enabled then
    ⟨c.interval.getD defaultWindow.interval, c.margin.getD defaultWindow.margin⟩
  else defaultWindow

def manages (c : LeaseConfig) (path : String) : Bool :=
  c.enabled &&
    match c.endpoints with
    | none => true
    | some starts =>
        let path := Text.trimStart Text.isSlash path.toList
        starts.any fun s => (Text.trimStart Text.isSlash s.toList).isPrefixOf path

end LeaseConfig

structure HttpConfig where
  readTimeout : Duration := .ofSecs 15
  connectTimeout : Duration := .ofSecs 5
  poolIdleTimeout : Duration := .ofSecs 90
  userAgent : String := "vault-lifecycle/0.1.0"
  deriving DecidableEq, Repr

structure PoolConfig where
  size : Nat := 2
  nameStart : String := "vault-lifecycle-"
  deriving DecidableEq, Repr

def PoolConfig.validate (c : PoolConfig) : Except VaultError Unit :=
  if c.size = 0 then .error (.invalidConfig "scheduler pool size must be at least 1") else .ok ()

structure Environment where
  address : Option String := none
  namespace_ : Option String := none
  token : Option String := none

/-- All settings.  A URI that is not blank counts in place of host, port and scheme. -/
structure Config where
  uri : Option String := none
  host : String := "localhost"
  port : Nat := 8200
  scheme : String := "https"
  namespace_ : Option String := none
  authentication : Authentication
  http : HttpConfig := {}
  retry : RetryPolicy := {}
  session : SessionConfig := {}
  lease : LeaseConfig := {}
  pool : PoolConfig := {}
  deriving DecidableEq, Repr

namespace Config

def ofEnvironment (env : Environment) : Config where
  uri := env.address
  namespace_ := env.namespace_
  authentication := .token (env.token.getD "")

def new (env : Environment) (uri : String) (authentication : Authentication) : Config :=
  { ofEnvironment env with uri := some uri, authentication }

def endpoint (c : Config) : Except VaultError Endpoint :=
  match c.uri.filter (!Text.blank ·) with
  | some uri => Endpoint.ofUri uri
  | none => ({ host := c.host, port := c.port } : Endpoint).withScheme c.scheme

def validate (c : Config) : Except VaultError Unit := do
  let _ ← c.endpoint
  c.authentication.validate
  if c.namespace_.any Text.blank then throw (.invalidConfig "namespace must not be blank")
  c.pool.validate
  if c.lease.eventCapacity = 0 then
    throw (.invalidConfig "lease event capacity must be at least 1")
  if c.http.connectTimeout.isZero || c.http.readTimeout.isZero then
    throw (.invalidConfig "HTTP timeouts must be greater than zero")

end Config

end Leasehold

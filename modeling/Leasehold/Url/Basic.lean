import Leasehold.Url.Address

/-!
# URLs

A URL in its parts, already normalised, and its text.  A URL has either a path
of segments below a host, or an opaque path that is kept as it was written.
-/

set_option autoImplicit false

namespace Leasehold

inductive Url.Host where
  | domain (name : String)
  | ipv4 (address : Nat)
  | ipv6 (pieces : List Nat)
  deriving DecidableEq, Repr

inductive Url.Path where
  | segments (l : List String)
  | opaqueText (s : String)
  deriving DecidableEq, Repr

/-- A URL.  An empty user name or password is an absent one; `port` is absent when it is the usual
one of the scheme. -/
structure Url where
  scheme : String
  username : String := ""
  password : String := ""
  host : Option Url.Host := none
  port : Option Nat := none
  path : Url.Path := .segments []
  query : Option String := none
  fragment : Option String := none
  deriving DecidableEq, Repr

inductive UrlError where
  | emptyHost
  | invalidDomainName
  | invalidPort
  | invalidIpv4
  | invalidIpv6
  | invalidDomainCharacter
  | relativeWithoutBase
  | relativeToOpaque
  deriving DecidableEq, Repr

def UrlError.message : UrlError → String
  | .emptyHost => "empty host"
  | .invalidDomainName => "invalid international domain name"
  | .invalidPort => "invalid port number"
  | .invalidIpv4 => "invalid IPv4 address"
  | .invalidIpv6 => "invalid IPv6 address"
  | .invalidDomainCharacter => "invalid domain character"
  | .relativeWithoutBase => "relative URL without a base"
  | .relativeToOpaque => "relative URL with a cannot-be-a-base base"

namespace Url

def usualPort? (scheme : String) : Option Nat :=
  if scheme = "http" ∨ scheme = "ws" then some 80
  else if scheme = "https" ∨ scheme = "wss" then some 443
  else if scheme = "ftp" then some 21
  else none

/-- Schemes whose URLs always have a host, `file` apart, and take a backslash for a slash. -/
def specialScheme (scheme : String) : Bool :=
  ["http", "https", "ws", "wss", "ftp", "file"].contains scheme

def special (u : Url) : Bool := specialScheme u.scheme

def Host.text : Host → List Char
  | .domain n => n.toList
  | .ipv4 a => Address.ipv4Text a
  | .ipv6 ps => '[' :: Address.ipv6Text ps ++ [']']

def hostText? (u : Url) : Option String :=
  match u.host with
  | none => none
  | some h => if h.text.isEmpty then none else some (String.ofList h.text)

def effectivePort? (u : Url) : Option Nat := u.port.or (usualPort? u.scheme)

def Path.text : Path → List Char
  | .segments l => l.flatMap fun s => '/' :: s.toList
  | .opaqueText s => s.toList

def pathText (u : Url) : String := String.ofList u.path.text

def pathAndQuery (u : Url) : String :=
  u.pathText ++
    match u.query with
    | some q => "?" ++ q
    | none => ""

def credentialsText (u : Url) : List Char :=
  if u.username = "" ∧ u.password = "" then []
  else
    u.username.toList ++ (if u.password = "" then [] else ':' :: u.password.toList) ++ ['@']

def authorityBelow (u : Url) (h : Host) : List Char :=
  u.credentialsText ++ h.text ++
    match u.port with
    | some p => ':' :: (toString p).toList
    | none => []

/-- What stands between the scheme and the path.  Without a host, a path that starts with two
slashes is kept apart from the scheme by `/.`. -/
def authorityText (u : Url) : List Char :=
  match u.host with
  | some h => '/' :: '/' :: u.authorityBelow h
  | none =>
      match u.path with
      | .segments ("" :: _ :: _) => ['/', '.']
      | _ => []

def text (u : Url) : List Char :=
  u.scheme.toList ++ ':' :: u.authorityText ++ u.path.text ++
    (match u.query with
    | some q => '?' :: q.toList
    | none => []) ++
    (match u.fragment with
    | some f => '#' :: f.toList
    | none => [])

instance : ToString Url := ⟨fun u => String.ofList u.text⟩

end Url

end Leasehold

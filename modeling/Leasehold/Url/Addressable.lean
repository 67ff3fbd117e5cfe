import Leasehold.Url.Basic

/-!
# URLs that messages can be sent to

The grammar of URIs is stricter than the one by which URLs are read.  A message
goes only to a URL that is a URI as well, and there the two differ in the
authority: it holds none but the characters of URIs, at most one colon behind
the credentials and the brackets, and escapes only in the credentials.
-/

set_option autoImplicit false

namespace Leasehold.Url

def inAuthority (c : Char) : Bool := c.isAlphanum || "!$&'()*+,-.;=_~".toList.contains c

/-- How far an authority has been read: the colons and escapes that may belong to the server, the
brackets, and whether the last character ended the credentials. -/
structure AuthorityScan where
  colons : Nat := 0
  escapes : Bool := false
  opened : Bool := false
  closed : Bool := false
  behindCredentials : Bool := false
  deriving DecidableEq, Repr

namespace AuthorityScan

def colonLimit : Nat := 8

def step (s : AuthorityScan) (c : Char) : Option AuthorityScan :=
  let s := { s with behindCredentials := c == '@' }
  match c with
  | ':' => if s.colons < colonLimit then some { s with colons := s.colons + 1 } else none
  | '%' => some { s with escapes := true }
  | '@' => some { s with colons := 0, escapes := false }
  | '[' => if s.escapes || s.opened then none else some { s with opened := true }
  | ']' =>
      if !s.opened || s.closed then none
      else some { s with closed := true, colons := 0, escapes := false }
  | c => if inAuthority c then some s else none

def complete (s : AuthorityScan) : Bool :=
  s.opened == s.closed && s.colons ≤ 1 && !s.escapes && !s.behindCredentials

end AuthorityScan

def validAuthority (s : List Char) : Bool :=
  (s.foldlM AuthorityScan.step {}).any AuthorityScan.complete

def schemeLimit : Nat := 64

def textLimit : Nat := 65534

/-- Whether a URL is a URI as well.  Without slashes behind the scheme the whole text is an
authority. -/
def addressable (u : Url) : Bool :=
  u.text.length ≤ textLimit &&
    match u.host with
    | some h =>
        u.scheme.length ≤ schemeLimit && !(u.authorityBelow h).isEmpty &&
          validAuthority (u.authorityBelow h)
    | none => validAuthority u.text

end Leasehold.Url

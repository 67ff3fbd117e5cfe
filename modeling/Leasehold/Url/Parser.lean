import Leasehold.Url.Basic
import Leasehold.Url.Domain
import Leasehold.Url.Percent

/-!
# Reading URLs

A text is read as a URL, on its own or relative to a base.  Tabs and line breaks
are dropped, controls and spaces at the ends are trimmed; then the scheme, the
authority, the path, the query and the fragment are taken from the front, each
normalised as it is read.
-/

set_option autoImplicit false

namespace Leasehold.Url

/-! ## Scheme -/

def isAlpha (c : Char) : Bool := ('a' ≤ c && c ≤ 'z') || ('A' ≤ c && c ≤ 'Z')

def isDigit (c : Char) : Bool := '0' ≤ c && c ≤ '9'

def inScheme (c : Char) : Bool := isAlpha c || isDigit c || c == '+' || c == '-' || c == '.'

def scheme? (s : List Char) : Option (String × List Char) :=
  match s with
  | c :: _ =>
      match isAlpha c, s.dropWhile inScheme with
      | true, ':' :: rest =>
          some (String.ofList ((s.takeWhile inScheme).map Char.toLower), rest)
      | _, _ => none
  | [] => none

/-! ## Authority -/

def endsAuthority (special : Bool) (c : Char) : Bool :=
  c == '/' || c == '?' || c == '#' || (special && c == '\\')

def splitAuthority (special : Bool) (s : List Char) : List Char × List Char :=
  (s.takeWhile fun c => !endsAuthority special c, s.dropWhile fun c => !endsAuthority special c)

def splitCredentials (authority : List Char) : Option (List Char × List Char) :=
  let behind := (authority.reverse.takeWhile (· != '@')).reverse
  if behind.length = authority.length then none
  else some (authority.take (authority.length - behind.length - 1), behind)

def credentials (s : List Char) : String × String :=
  let name := s.takeWhile (· != ':')
  let password := (s.dropWhile (· != ':')).drop 1
  (String.ofList (Percent.encode Percent.inUserinfo name),
    String.ofList (Percent.encode Percent.inUserinfo password))

/-- The host at the front of an authority: up to a colon outside of square brackets. -/
def hostEnd : Bool → List Char → List Char × List Char
  | _, [] => ([], [])
  | bracketed, c :: cs =>
      if c = ':' ∧ !bracketed then ([], c :: cs)
      else
        let (h, rest) := hostEnd (if c = '[' then true else if c = ']' then false else bracketed) cs
        (c :: h, rest)

def forbiddenInHost (c : Char) : Bool :=
  ['\x00', '\t', '\n', '\r', ' ', '#', '/', ':', '<', '>', '?', '@', '[', '\\', ']', '^',
    '|'].contains c

def bracketedHost (s : List Char) : Except UrlError Host :=
  if s.getLast? = some ']' then
    match Address.ipv6? (s.drop 1).dropLast with
    | some pieces => .ok (.ipv6 pieces)
    | none => .error .invalidIpv6
  else .error .invalidIpv6

def specialHost (s : List Char) : Except UrlError Host :=
  match s with
  | '[' :: _ => bracketedHost s
  | _ => do
      let decoded ←
        match (Utf8.scan (Percent.decode s)).mapM id with
        | some d => pure d
        | none => throw UrlError.invalidDomainName
      let name ←
        match Domain.toAscii? decoded with
        | some n => pure n
        | none => throw UrlError.invalidDomainName
      if name.isEmpty then throw UrlError.emptyHost
      if Address.endsInNumber name then
        match Address.ipv4? name with
        | some a => return .ipv4 a
        | none => throw UrlError.invalidIpv4
      else return .domain (String.ofList name)

/-- The host of a URL without a special scheme, its controls escaped. -/
def plainHost (s : List Char) : Except UrlError Host :=
  match s with
  | '[' :: _ => bracketedHost s
  | _ =>
      if s.any forbiddenInHost then .error .invalidDomainCharacter
      else .ok (.domain (String.ofList (Percent.encode Percent.inControls s)))

def portNumber : Nat → List Char → Option Nat
  | n, [] => some n
  | n, c :: cs =>
      let m := n * 10 + (c.toNat - 48)
      if m ≤ 65535 then portNumber m cs else none

/-- The port behind the colon: digits up to the end of the authority or a backslash. -/
def readPort (scheme : String) (s : List Char) : Except UrlError (Option Nat × List Char) :=
  let digits := s.takeWhile isDigit
  match s.dropWhile isDigit with
  | c :: rest =>
      if c = '\\' then finish digits (c :: rest) else .error .invalidPort
  | [] => finish digits []
where
  finish (digits rest : List Char) : Except UrlError (Option Nat × List Char) :=
    match portNumber 0 digits with
    | none => .error .invalidPort
    | some n =>
        if digits.isEmpty ∨ usualPort? scheme = some n then .ok (none, rest)
        else .ok (some n, rest)

/-- A URL with the authority at the front of the text; its path is still to be read. -/
def readAuthority (scheme : String) (s : List Char) : Except UrlError (Url × List Char) := do
  let special := specialScheme scheme
  let (authority, rest) := splitAuthority special s
  let (userinfo, server) := (splitCredentials authority).getD ([], authority)
  if (splitCredentials authority).isSome && userinfo.isEmpty && server.isEmpty && !rest.isEmpty then
    throw UrlError.emptyHost
  let (username, password) := credentials userinfo
  let (name, tail) := hostEnd false server
  if special && name.isEmpty then throw UrlError.emptyHost
  let host ← if special then specialHost name else plainHost name
  let (port, left) ←
    match tail with
    | ':' :: digits =>
        if host = .domain "" then throw UrlError.emptyHost else readPort scheme digits
    | t => pure (none, t)
  if host = .domain "" && (username != "" || password != "") then throw UrlError.emptyHost
  return ({ scheme, username, password, host := some host, port }, left ++ rest)

/-! ## Path -/

def isSingleDot (s : List Char) : Bool :=
  [".", "%2e"].contains (String.ofList (s.map Char.toLower))

def isDoubleDot (s : List Char) : Bool :=
  ["..", ".%2e", "%2e.", "%2e%2e"].contains (String.ofList (s.map Char.toLower))

def isDrive (s : List Char) : Bool :=
  match s with
  | [c, d] => isAlpha c && (d == ':' || d == '|')
  | _ => false

/-- The place above the last segment.  There is nothing above a drive, which may end in a backslash
and more text where a backslash is no slash. -/
def placeAbove (segments : List String) : List String :=
  match segments.getLast? with
  | none => []
  | some s =>
      if isDrive (s.toList.takeWhile (· != '\\')) then segments else segments.dropLast

/-- The segments with one more, which ends the path unless a slash follows it.  A drive at the root
of a file's path is written with a colon. -/
def addSegment (scheme : String) (segments : List String) (segment : List Char) (slash : Bool) :
    List String :=
  if isDoubleDot segment then
    if slash then placeAbove segments else placeAbove segments ++ [""]
  else if isSingleDot segment then
    if slash then segments else segments ++ [""]
  else if scheme = "file" ∧ segments = [] ∧ isDrive segment then
    [String.ofList (segment.take 1 ++ [':'])]
  else segments ++ [String.ofList segment]

/-- The segments up to the query, the fragment or the end, behind those already there; `begun` is
the escaped start of the segment being read. -/
def readSegments (scheme : String) (segments : List String) (begun : List Char) :
    List Char → List String × List Char
  | [] => (addSegment scheme segments begun false, [])
  | c :: cs =>
      if c = '/' ∨ (c = '\\' ∧ specialScheme scheme) then
        readSegments scheme (addSegment scheme segments begun true) [] cs
      else if c = '?' ∨ c = '#' then (addSegment scheme segments begun false, c :: cs)
      else readSegments scheme segments (begun ++ Percent.encodeChar Percent.inPath c) cs

def readPath (scheme : String) (s : List Char) : List String × List Char :=
  let special := specialScheme scheme
  match s with
  | [] => (if special then [""] else [], [])
  | c :: cs =>
      if c = '/' ∨ (special ∧ c = '\\') then readSegments scheme [] [] cs
      else if !special ∧ (c = '?' ∨ c = '#') then ([], c :: cs)
      else readSegments scheme [] [] (c :: cs)

/-! ## Query and fragment -/

def readTail (u : Url) (s : List Char) : Url :=
  let set := if u.special then Percent.inSpecialQuery else Percent.inQuery
  let fragmentOf (f : List Char) : String := String.ofList (Percent.encode Percent.inFragment f)
  match s with
  | '?' :: rest =>
      let q := String.ofList (Percent.encode set (rest.takeWhile (· != '#')))
      match rest.dropWhile (· != '#') with
      | '#' :: f => { u with query := some q, fragment := some (fragmentOf f) }
      | _ => { u with query := some q, fragment := none }
  | '#' :: f => { u with fragment := some (fragmentOf f) }
  | _ => u

def readBelow (scheme : String) (s : List Char) : Except UrlError Url := do
  let (u, rest) ← readAuthority scheme s
  let (segments, rest) := readPath scheme rest
  return readTail { u with path := .segments segments } rest

/-! ## Files -/

/-- The URL of a file on a host.  The path starts with no empty segments, and a path below a drive
has no host. -/
def fileUrl (host : Host) (segments : List String) (rest : List Char) : Url :=
  let onDrive := segments.head?.any fun s => isDrive s.toList
  let path :=
    match segments.dropWhile (· == "") with
    | [] => [""]
    | l => l
  readTail
    { scheme := "file", host := some (if onDrive then .domain "" else host),
      path := .segments path } rest

/-- A URL of a file; `localhost` is the same as no host, and a drive is none.  Without a host the
slash behind it is read as a part of the path. -/
def readFile (s : List Char) : Except UrlError Url := do
  let isSlash (c : Char) : Bool := c == '/' || c == '\\'
  let below (host : Host) (path : List String × List Char) : Url := fileUrl host path.1 path.2
  let noHost := Host.domain ""
  if (s.takeWhile isSlash).length < 2 then return below noHost (readPath "file" s)
  let (name, rest) := splitAuthority true (s.drop 2)
  if isDrive name then return below noHost (readPath "file" (s.drop 2))
  let host ← if name.isEmpty then pure noHost else specialHost name
  if host = noHost ∨ host = .domain "localhost" then
    return below noHost (readSegments "file" [] [] rest)
  return below host (readPath "file" rest)

/-! ## Whole URLs -/

def readScheme (scheme : String) (s : List Char) : Except UrlError Url :=
  if scheme = "file" then readFile s
  else if specialScheme scheme then
    readBelow scheme (s.dropWhile fun c => c == '/' || c == '\\')
  else
    match s with
    | '/' :: '/' :: rest => readBelow scheme rest
    | '/' :: rest =>
        let (segments, rest) := readSegments scheme [] [] rest
        .ok (readTail { scheme, path := .segments segments } rest)
    | s =>
        let stops (c : Char) : Bool := c == '?' || c == '#'
        let text := String.ofList (Percent.encode Percent.inControls (s.takeWhile (!stops ·)))
        .ok (readTail { scheme, path := .opaqueText text } (s.dropWhile (!stops ·)))

def Path.parent : Path → List String
  | .segments l => l.dropLast
  | .opaqueText _ => []

def readRelative (base : Url) (s : List Char) : Except UrlError Url :=
  let isSlash (c : Char) : Bool := c == '/' || (base.special && c == '\\')
  match s with
  | [] => .ok { base with fragment := none }
  | '?' :: _ => .ok (readTail { base with query := none, fragment := none } s)
  | '#' :: _ => .ok (readTail { base with fragment := none } s)
  | c :: rest =>
      if isSlash c then
        match rest with
        | d :: below =>
            if isSlash d then
              if c = '/' ∧ d = '/' then readBelow base.scheme below
              else readBelow base.scheme (below.dropWhile isSlash)
            else absolute rest
        | [] => absolute rest
      else
        let (segments, rest) := readSegments base.scheme base.path.parent [] s
        .ok
          (readTail { base with path := .segments segments, query := none, fragment := none } rest)
where
  absolute (s : List Char) : Except UrlError Url :=
    let (segments, rest) := readSegments base.scheme [] [] s
    .ok (readTail { base with path := .segments segments, query := none, fragment := none } rest)

/-- The text that is read: no tabs and line breaks, and no controls and spaces at the ends. -/
def cleaned (s : String) : List Char :=
  (Text.trim (fun c => c.toNat ≤ 0x20) s.toList).filter fun c =>
    !(['\t', '\n', '\r'].contains c)

def parse (s : String) : Except UrlError Url :=
  match scheme? (cleaned s) with
  | some (scheme, rest) => readScheme scheme rest
  | none => .error .relativeWithoutBase

/-- The URL that a text writes relative to `base`.  A special scheme equal to the one of the base
and not followed by two slashes is relative to the base as well. -/
def join (base : Url) (s : String) : Except UrlError Url :=
  let s := cleaned s
  match scheme? s with
  | some (scheme, rest) =>
      let slashes := (rest.takeWhile fun c => c == '/' || c == '\\').length
      if specialScheme scheme && scheme != "file" && slashes < 2 && scheme == base.scheme then
        readRelative base rest
      else readScheme scheme rest
  | none =>
      match base.path, s with
      | .opaqueText _, '#' :: _ => .ok (readTail { base with fragment := none } s)
      | .opaqueText _, _ => .error .relativeToOpaque
      | _, s => readRelative base s

end Leasehold.Url

import Leasehold.Http.Message
import Leasehold.Text.Digits
import Leasehold.Text.Trim

/-!
# HTTP on the wire

A response is read from the octets that arrive on a connection before it is
closed.  A head comes first, a status line and header fields, each in a line;
it decides how far the body behind it goes.  Heads that only inform are read
and forgotten.  Every reader hands back fewer octets than it was given.
-/

set_option autoImplicit false

namespace Leasehold.Http.Wire

/-- What is taken from the front of some octets, and the fewer octets behind it. -/
abbrev Taken (α : Type) (s : List UInt8) : Type :=
  Option (α × { rest : List UInt8 // rest.length < s.length })

/-! ## Lines -/

/-- The octets up to a line feed, each as the character of its number. -/
def rawLine : (s : List UInt8) → Taken (List Char) s
  | [] => none
  | o :: s =>
      if o = 10 then some ([], ⟨s, Nat.lt_succ_self _⟩)
      else
        match rawLine s with
        | some (line, ⟨rest, h⟩) =>
            some (Char.ofNat o.toNat :: line, ⟨rest, Nat.lt_succ_of_lt h⟩)
        | none => none

/-- A line of a head; its carriage return may be missing. -/
def headLine (s : List UInt8) : Taken (List Char) s :=
  (rawLine s).map fun (line, rest) =>
    (if line.getLast? = some '\r' then line.dropLast else line, rest)

/-- A line between the chunks of a body; it has its carriage return. -/
def chunkLine (s : List UInt8) : Taken (List Char) s :=
  (rawLine s).bind fun (line, rest) =>
    if line.getLast? = some '\r' then some (line.dropLast, rest) else none

/-! ## Header fields -/

structure Field where
  name : String
  value : List Char
  deriving DecidableEq, Repr

def inFieldName (c : Char) : Bool := c.isAlphanum || "!#$%&'*+-.^_\x60|~".toList.contains c

def fieldValue (s : List Char) : List Char := Text.trim (fun c => c == ' ' || c == '\t') s

/-- The header field in a line: its colon stands right behind the name. -/
def field? (line : List Char) : Option Field :=
  let name := line.takeWhile (· != ':')
  match line.dropWhile (· != ':') with
  | _ :: value =>
      if !name.isEmpty && name.all inFieldName && value.all inHeaderValue then
        some ⟨String.ofList (name.map Char.toLower), fieldValue value⟩
      else none
  | [] => none

def fields (line : (s : List UInt8) → Taken (List Char) s) (s : List UInt8) :
    Taken (List Field) s :=
  match line s with
  | none => none
  | some ([], rest) => some ([], rest)
  | some (l, ⟨rest, h⟩) =>
      match field? l, fields line rest with
      | some f, some (fs, ⟨behind, h'⟩) => some (f :: fs, ⟨behind, Nat.lt_trans h' h⟩)
      | _, _ => none
  termination_by s.length

/-! ## Heads -/

/-- The head of a response; `revision` is the second number of its version. -/
structure Head where
  revision : Nat
  status : Nat
  fields : List Field
  deriving DecidableEq, Repr

def Head.values (h : Head) (name : String) : List (List Char) :=
  (h.fields.filter (·.name == name)).map (·.value)

def statusLine? (line : List Char) : Option (Nat × Nat) :=
  let status := (line.drop 9).take 3
  let reason := line.drop 12
  match line.take 9 == "HTTP/1.0 ".toList, line.take 9 == "HTTP/1.1 ".toList with
  | false, false => none
  | _, newer =>
      if status.length = 3 ∧ reason.all inHeaderValue ∧ reason.head?.all (· == ' ') then
        (Text.number? 10 status).bind fun n =>
          if n < 100 then none else some (if newer then 1 else 0, n)
      else none

/-- The head at the front; empty lines may stand before it. -/
def head (s : List UInt8) : Taken Head s :=
  match headLine s with
  | none => none
  | some ([], ⟨rest, h⟩) =>
      (head rest).map fun (found, ⟨behind, h'⟩) => (found, ⟨behind, Nat.lt_trans h' h⟩)
  | some (line, ⟨rest, h⟩) =>
      match statusLine? line, fields headLine rest with
      | some (revision, status), some (fs, ⟨behind, h'⟩) =>
          some (⟨revision, status, fs⟩, ⟨behind, Nat.lt_trans h' h⟩)
      | _, _ => none
  termination_by s.length

def informational (status : Nat) : Bool := status < 200 && status != 101

def finalHead (s : List UInt8) : Option (Head × List UInt8) :=
  match head s with
  | none => none
  | some (found, ⟨rest, _⟩) =>
      if informational found.status then finalHead rest else some (found, rest)
  termination_by s.length

/-! ## Bodies -/

inductive Extent where
  | nothing
  | octets (count : Nat)
  | chunks
  | untilClosed
  deriving DecidableEq, Repr

/-- Whether the last coding that a value names is the one in chunks. -/
def namesChunks (value : List Char) : Bool :=
  ((Text.splitAt ',' value).getLast?.map fun coding =>
    (Text.trim Text.isBlank coding).map Char.toLower) == some "chunked".toList

def commonLength? (values : List (List Char)) : Option Nat := do
  let numbers ← (values.flatMap (Text.splitAt ',')).mapM fun part =>
    let digits := Text.trim Text.isBlank part
    if digits.isEmpty then none else Text.number? 10 digits
  let first ← numbers.head?
  if numbers.all (· == first) then some first else none

/-- How far the body of a response to a method goes, unless the head contradicts itself. -/
def Head.extent? (h : Head) (method : String) : Option Extent :=
  let connected := method == "CONNECT" && 200 ≤ h.status && h.status < 300
  if [101, 204, 304].contains h.status || method == "HEAD" || connected then some .nothing
  else
    match (h.values "transfer-encoding").getLast?, h.values "content-length" with
    | some coding, _ =>
        if h.revision = 0 then none else some (if namesChunks coding then .chunks else .untilClosed)
    | none, [] => some .untilClosed
    | none, lengths => (commonLength? lengths).map .octets

def chunkSize? (line : List Char) : Option Nat :=
  let digits := line.takeWhile fun c => (Text.hexDigit? c).isSome
  let behind :=
    (line.dropWhile fun c => (Text.hexDigit? c).isSome).dropWhile fun c => c == ' ' || c == '\t'
  if digits.isEmpty || !(behind.isEmpty || behind.head? == some ';' && !behind.contains '\r') then
    none
  else Text.number? 16 digits

/-- The octets of the chunks up to the empty one, behind which fields may follow. -/
def chunks (s : List UInt8) : Option (List UInt8) :=
  match chunkLine s with
  | none => none
  | some (line, ⟨rest, _⟩) =>
      match chunkSize? line with
      | none => none
      | some 0 => (fields chunkLine rest).map fun _ => []
      | some n =>
          match _ : rest.drop n with
          | 13 :: 10 :: behind => (chunks behind).map (rest.take n ++ ·)
          | _ => none
  termination_by s.length
  decreasing_by
    have := congrArg List.length ‹rest.drop n = _›
    simp only [List.length_drop, List.length_cons] at this
    omega

def Extent.body? (s : List UInt8) : Extent → Option (List UInt8)
  | .nothing => some []
  | .octets count => if s.length < count then none else some (s.take count)
  | .chunks => Wire.chunks s
  | .untilClosed => some s

end Wire

structure WireResponse where
  status : Nat
  fields : List Wire.Field
  body : Option (List UInt8)
  deriving DecidableEq, Repr

namespace WireResponse

def ofOctets? (method : String) (s : List UInt8) : Option WireResponse := do
  let (head, rest) ← Wire.finalHead s
  let extent ← head.extent? method
  return ⟨head.status, head.fields, extent.body? rest⟩

def location? (r : WireResponse) : Option String := do
  let field ← r.fields.find? (·.name == "location")
  Utf8.decode? (field.value.map fun c => c.toNat.toUInt8)

end WireResponse

end Leasehold.Http

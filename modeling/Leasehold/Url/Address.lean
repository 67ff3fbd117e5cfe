import Leasehold.Text.Digits
import Leasehold.Text.Trim

/-!
# Internet addresses

The texts of IPv4 and IPv6 addresses as hosts of a URL.  An IPv4 address may be
written with one to four numbers, each decimal, octal or hexadecimal, and is
shown as four decimal ones.  An IPv6 address is shown with its first longest
run of zero pieces left out.
-/

set_option autoImplicit false

namespace Leasehold.Address

open Text (digitValue? number? splitAt)

/-- One number of an IPv4 address: `0x` starts hexadecimal digits, another leading zero octal
ones. -/
def ipv4Number? (s : List Char) : Option Nat :=
  match s with
  | [] => none
  | '0' :: 'x' :: ds | '0' :: 'X' :: ds => number? 16 ds
  | '0' :: d :: ds => number? 8 (d :: ds)
  | ds => number? 10 ds

/-- The parts of a dotted text, one trailing dot not counted. -/
def dottedParts (s : List Char) : List (List Char) :=
  let parts := splitAt '.' s
  if 1 < parts.length ∧ parts.getLast? = some [] then parts.dropLast else parts

/-- Whether the last part of a domain is a number, so that the domain has to be an address. -/
def endsInNumber (s : List Char) : Bool :=
  match (dottedParts s).getLast? with
  | none => false
  | some last =>
      (!last.isEmpty && last.all (fun c => (digitValue? 10 c).isSome)) || (ipv4Number? last).isSome

/-- The IPv4 address that a text writes: every number but the last fills one octet, and the last
one fills the octets that are left. -/
def ipv4? (s : List Char) : Option Nat := do
  let parts := dottedParts s
  if 4 < parts.length then none
  let numbers ← parts.mapM ipv4Number?
  let last ← numbers.getLast?
  let leading := numbers.dropLast
  if leading.any (255 < ·) then none
  if Nat.pow 256 (4 - leading.length) ≤ last then none
  return (leading.zipIdx.foldl (fun n (x, i) => n + x * Nat.pow 256 (3 - i)) last)

def ipv4Text (a : Nat) : List Char :=
  let part (n : Nat) : List Char := (toString (n % 256)).toList
  part (a / 16777216) ++ '.' :: part (a / 65536) ++ '.' :: part (a / 256) ++ '.' :: part a

def piece : Nat → List Char → Nat × Nat × List Char
  | 0, s => (0, 0, s)
  | _ + 1, [] => (0, 0, [])
  | k + 1, c :: cs =>
      match digitValue? 16 c with
      | none => (0, 0, c :: cs)
      | some v =>
          let (n, used, rest) := piece k cs
          (v * Nat.pow 16 used + n, used + 1, rest)

def octet? (s : List Char) : Option Nat :=
  match s with
  | [] => none
  | ['0'] => some 0
  | '0' :: _ => none
  | ds => (number? 10 ds).bind fun n => if n ≤ 255 then some n else none

/-- The two pieces of an IPv4 address that ends an IPv6 address. -/
def embedded? (s : List Char) : Option (List Nat) := do
  match ← (splitAt '.' s).mapM octet? with
  | [a, b, c, d] => some [a * 256 + b, c * 256 + d]
  | _ => none

structure Pieces where
  front : List Nat
  back : Option (List Nat)

namespace Pieces

def count (p : Pieces) : Nat := p.front.length + (p.back.getD []).length

def push (p : Pieces) (n : Nat) : Pieces :=
  match p.back with
  | none => { p with front := p.front ++ [n] }
  | some b => { p with back := some (b ++ [n]) }

/-- The eight pieces: a gap stands for at least one zero, and nothing may be missing without it. -/
def fill (p : Pieces) : Option (List Nat) :=
  match p.back with
  | none => if p.front.length = 8 then some p.front else none
  | some b =>
      if p.count < 8 then some (p.front ++ List.replicate (8 - p.count) 0 ++ b) else none

end Pieces

def piecesFrom : Nat → Pieces → List Char → Option Pieces
  | _, p, [] => some p
  | 0, _, _ => none
  | fuel + 1, p, ':' :: cs =>
      if p.back.isSome ∨ 8 ≤ p.count then none else piecesFrom fuel { p with back := some [] } cs
  | fuel + 1, p, s =>
      if 8 ≤ p.count + (if p.back.isSome then 1 else 0) then none
      else
        let (n, used, rest) := piece 4 s
        match rest with
        | [] => if used = 0 then none else some (p.push n)
        | '.' :: _ =>
            if used = 0 ∨ 6 < p.count + (if p.back.isSome then 1 else 0) then none
            else (embedded? s).map (fun e => e.foldl Pieces.push p)
        | ':' :: next =>
            if next.isEmpty then none else piecesFrom fuel (p.push n) next
        | _ => none

def ipv6? (s : List Char) : Option (List Nat) := do
  if s.length < 2 then none
  let p ←
    match s with
    | ':' :: ':' :: rest => piecesFrom s.length ⟨[], some []⟩ rest
    | ':' :: _ => none
    | s => piecesFrom s.length ⟨[], none⟩ s
  p.fill

def hexReversed : Nat → Nat → List Char
  | 0, _ => []
  | fuel + 1, n =>
      let d := n % 16
      let c := if d < 10 then Char.ofNat (48 + d) else Char.ofNat (87 + d)
      if n < 16 then [c] else c :: hexReversed fuel (n / 16)

def hexText (n : Nat) : List Char := (hexReversed 4 n).reverse

def zeroRun : List Nat → Nat
  | 0 :: rest => zeroRun rest + 1
  | _ => 0

def longestZeros (at_ : Nat) : List Nat → Nat × Nat
  | [] => (at_, 0)
  | n :: rest =>
      let here := zeroRun (n :: rest)
      let (i, len) := longestZeros (at_ + 1) rest
      if here < len then (i, len) else (at_, here)

def joinPieces : List Nat → List Char
  | [] => []
  | [n] => hexText n
  | n :: rest => hexText n ++ ':' :: joinPieces rest

def ipv6Text (pieces : List Nat) : List Char :=
  let (i, len) := longestZeros 0 pieces
  if len < 2 then joinPieces pieces
  else joinPieces (pieces.take i) ++ ':' :: ':' :: joinPieces (pieces.drop (i + len))

end Leasehold.Address

import Leasehold.Url.Punycode
import Leasehold.Url.Domain.Direction
import Leasehold.Url.Domain.Folding
import Leasehold.Url.Domain.Joining

/-!
# Domain names

The ASCII form of a domain name: characters are folded, letters and marks are
composed, and a label that holds characters outside ASCII is written in
Punycode behind `xn--`.  The result has to be a domain name in its own right:
it holds no character that a host may not hold, behind each `xn--` the Punycode
of a label that needs it and stands as it is, and labels that go together in
their writing directions.
-/

set_option autoImplicit false

namespace Leasehold.Domain

def forbidden (c : Char) : Bool :=
  c.toNat ≤ 0x20 || c.toNat = 0x7F ||
    ['#', '%', '/', ':', '<', '>', '?', '@', '[', '\\', ']', '^', '|'].contains c

def sign : List Char := ['x', 'n', '-', '-']

/-- The most characters of a label that is not all ASCII. -/
def maxLabel : Nat := 1000

def maxEncoded : Nat := 2000

/-- Whether a label that is not all ASCII stands as it is after folding. -/
def settled (label : List Char) : Bool :=
  label.any (128 ≤ ·.toNat) && label.length ≤ maxLabel &&
    label.all (fun c => fold c == some [c] && c != '.') && compose label == label &&
    !(label.head?.any isMark) && joinersFit label

def validLabel (label : List Char) : Bool :=
  label.all (fun c => c.toNat < 128 && !forbidden c && c.toLower == c) &&
    (label.take 4 != sign ||
      ((label.drop 4).length ≤ maxEncoded && (Punycode.decode? (label.drop 4)).any settled))

def shownLabel (label : List Char) : List Char :=
  if label.take 4 = sign then (Punycode.decode? (label.drop 4)).getD label else label

def valid (s : List Char) : Bool :=
  let labels := Text.splitAt '.' s
  labels.all validLabel && directionsFit (labels.map shownLabel)

/-- A folded label in ASCII.  A label in Punycode is all ASCII to begin with. -/
def asciiLabel? (label : List Char) : Option (List Char) :=
  if label.all (·.toNat < 128) then some label
  else if label.take 4 = sign then none
  else some (sign ++ Punycode.encode label)

def joinLabels : List (List Char) → List Char
  | [] => []
  | [l] => l
  | l :: ls => l ++ '.' :: joinLabels ls

def toAscii? (s : List Char) : Option (List Char) := do
  let folded ← s.mapM fold
  let labels ← (Text.splitAt '.' (compose folded.flatten)).mapM asciiLabel?
  let ascii := joinLabels labels
  if valid ascii then some ascii else none

theorem toAscii?_valid {s t : List Char} (h : toAscii? s = some t) : valid t = true := by
  simp only [toAscii?, Option.bind_eq_bind, Option.bind_eq_some_iff] at h
  obtain ⟨_, _, _, _, h⟩ := h
  split at h
  · rename_i hv
    simpa using (Option.some.inj h) ▸ hv
  · simp at h

end Leasehold.Domain

/-!
# Splitting and trimming text

Parts between separators, and text without certain characters at its ends.
-/

set_option autoImplicit false

namespace Leasehold.Text

/-- The parts of a text between its separators; there is always one more than there are
separators. -/
def splitAt (sep : Char) : List Char → List (List Char)
  | [] => [[]]
  | c :: cs =>
      if c = sep then [] :: splitAt sep cs
      else
        match splitAt sep cs with
        | p :: ps => (c :: p) :: ps
        | [] => [[c]]

def trimStart (set : Char → Bool) (s : List Char) : List Char := s.dropWhile set

def trimEnd (set : Char → Bool) (s : List Char) : List Char := (s.reverse.dropWhile set).reverse

def trim (set : Char → Bool) (s : List Char) : List Char := trimEnd set (trimStart set s)

def isSlash (c : Char) : Bool := c == '/'

def withoutLeadingSlashes (s : String) : String := String.ofList (trimStart isSlash s.toList)

def withoutOuterSlashes (s : String) : String := String.ofList (trim isSlash s.toList)

def isBlank (c : Char) : Bool :=
  let n := c.toNat
  (9 ≤ n && n ≤ 13) || n == 32 || n == 0x85 || n == 0xA0 || n == 0x1680 ||
    (0x2000 ≤ n && n ≤ 0x200A) || n == 0x2028 || n == 0x2029 || n == 0x202F || n == 0x205F ||
    n == 0x3000

def trimmed (s : String) : String := String.ofList (trim isBlank s.toList)

def blank (s : String) : Bool := s.toList.all isBlank

end Leasehold.Text

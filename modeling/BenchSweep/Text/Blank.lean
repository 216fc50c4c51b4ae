import BenchSweep.Text.Pieces

/-! White space: the characters with the property White_Space, cut off at both ends of a text
(`trim`) or taken as the separators of its fields (`fields`). -/
set_option autoImplicit false

namespace BenchSweep.Text

/-- The characters with the property White_Space. -/
def isBlank (c : Char) : Bool :=
  let n := c.toNat
  (9 ≤ n && n ≤ 13) || n == 0x20 || n == 0x85 || n == 0xA0 || n == 0x1680 ||
    (0x2000 ≤ n && n ≤ 0x200A) || n == 0x2028 || n == 0x2029 || n == 0x202F || n == 0x205F ||
    n == 0x3000

/-! ## Ends -/

def trimStart (s : List Char) : List Char := s.dropWhile isBlank

def trimEnd (s : List Char) : List Char := (s.reverse.dropWhile isBlank).reverse

/-- Without the blanks at its two ends. -/
def trim (s : List Char) : List Char := trimEnd (trimStart s)

/-! ## Fields -/

/-- The maximal runs of characters that are not blank. -/
def fields (s : List Char) : List (List Char) := (splitWhere isBlank s).filter (!·.isEmpty)

end BenchSweep.Text

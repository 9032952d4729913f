set_option autoImplicit false

/-!
Sets of code points, written as lists of closed ranges in ascending order. The
tables of character properties are values of this kind.
-/

namespace JsxLowering.Text

/-- Closed ranges of code points, each given by its first and last member. -/
abbrev CodeRanges := List (Nat × Nat)

/-- Whether a character lies in one of the ranges. -/
def inRanges (ranges : CodeRanges) (c : Char) : Bool :=
  ranges.any fun range => range.1 ≤ c.toNat && c.toNat ≤ range.2

/-- Whether a character is one of the first 128 code points. -/
def isAscii (c : Char) : Bool := c.toNat < 128

def isAsciiLetter (c : Char) : Bool :=
  ('a' ≤ c && c ≤ 'z') || ('A' ≤ c && c ≤ 'Z')

def isAsciiDigit (c : Char) : Bool := '0' ≤ c && c ≤ '9'

end JsxLowering.Text

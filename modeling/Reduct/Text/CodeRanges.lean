/-!
# Code-point ranges

A character property is given by the closed ranges of code points that have it. The table
modules beside this one each state one property this way, as of version 16 of the Unicode
character database.
-/

namespace Reduct.Text

/-- Closed ranges of code points, ascending and apart. -/
abbrev CodeRanges := List (Nat × Nat)

/-- Does one of the ranges hold the code point of `c`? -/
def inRanges (ranges : CodeRanges) (c : Char) : Bool :=
  ranges.any fun range => range.1 ≤ c.toNat && c.toNat ≤ range.2

/-- Is the code point of `c` the first of one of the ranges, the third, the fifth, and so on? -/
def inTurns (ranges : CodeRanges) (c : Char) : Bool :=
  ranges.any fun range =>
    range.1 ≤ c.toNat && c.toNat ≤ range.2 && (c.toNat - range.1) % 2 == 0

end Reduct.Text

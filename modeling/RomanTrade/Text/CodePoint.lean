/-!
# Ranges of code points

Properties of characters are given as ranges of code points, each by its first and its last.
-/

namespace RomanTrade
namespace Text

abbrev CodePointRanges := List (Nat × Nat)

def isWithin (ranges : CodePointRanges) (c : Char) : Bool :=
  ranges.any fun range => range.1 ≤ c.toNat && c.toNat ≤ range.2

end Text
end RomanTrade

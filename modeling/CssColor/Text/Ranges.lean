/-!
# Character classes given by ranges

- `CodeRanges`: a class of characters as a list of first and last code points.
- `CodeRanges.has`: whether a character lies in one of the ranges.
-/

namespace CssColor

/-- Inclusive ranges of code points. -/
abbrev CodeRanges := List (Nat × Nat)

/-- Whether some range holds the character. -/
def CodeRanges.has (ranges : CodeRanges) (c : Char) : Bool :=
  ranges.any fun (first, last) => first ≤ c.toNat && c.toNat ≤ last

end CssColor

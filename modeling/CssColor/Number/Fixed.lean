import CssColor.Number.Shortest

/-!
# Decimal text with a fixed number of places

- `roundQuotientAway`: a quotient rounded to the nearest whole number, ties
  away from zero.
- `toFixed`: a double with a given number of decimal places, from its exact
  value.
- `formatNumber`: the same number without superfluous zeros.
- `toPlaces`: a double with any whole number of places; below zero it counts the
  zeros before the point.
-/

namespace CssColor

/-- A quotient rounded to the nearest whole number, a tie up. -/
def roundQuotientAway (num den : Nat) : Nat :=
  (2 * num + den) / (2 * den)

/-- How many units of the last of `places` decimal places come nearest to
`significand * 2 ^ exponent`. -/
def fixedUnits (significand : Nat) (exponent : Int) (places : Nat) : Nat :=
  roundQuotientAway (significand * Nat.pow 2 exponent.toNat * Nat.pow 10 places)
    (Nat.pow 2 (-exponent).toNat)

/-- The digits that a rounding may use: those of the whole part, one for a carry, and the places. -/
def fixedWidth (significand : Nat) (exponent : Int) (places : Nat) : Nat :=
  digitCount (significand * Nat.pow 2 exponent.toNat / Nat.pow 2 (-exponent).toNat) + 1 + places

/-- Units of the last of `places` decimal places, written with the point in its place. -/
def unitsText (units places : Nat) : Text :=
  let digits := Nat.toDigits 10 units
  let filled := List.replicate (places + 1 - digits.length) '0' ++ digits
  let whole := filled.length - places
  if places = 0 then filled else filled.take whole ++ '.' :: filled.drop whole

/-- Why a double has no text with the places that are asked for. -/
inductive FixedError where
  /-- The rounded number has more digits than its width allows, or a place that no number has. -/
  | tooWide
  /-- No digit would be kept, or more digits than any number has. -/
  | width
  /-- The count of digits is no machine word. -/
  | hugeWidth
  /-- The count of places is no whole number. -/
  | fractional
  deriving DecidableEq, Repr

/-- The message of a rounding error. -/
def FixedError.message : FixedError → Text
  | .tooWide => "[<class 'decimal.InvalidOperation'>]".toList
  | .width => "valid range for prec is [1, MAX_PREC]".toList
  | .hugeWidth => "Python int too large to convert to C ssize_t".toList
  | .fractional => "an integer is required".toList

/-- Numbers of this magnitude or more are written with an exponent. -/
def fixedLimit : Float := 1e21

/-- A double with `places` decimal places: the exact value is rounded to the nearest, a tie away
from zero, and a negative sign stays even on zero. -/
def toFixed (x : Float) (places : Nat) : Except FixedError Text :=
  match Binary64.ofFloat x with
  | .finite negative significand exponent =>
    if x.abs < fixedLimit then
      let units := fixedUnits significand exponent places
      if digitCount units ≤ fixedWidth significand exponent places then
        .ok ((if negative then ['-'] else []) ++ unitsText units places)
      else .error .tooWide
    else .ok (namedLayout.text (.finite negative significand exponent))
  | other => .ok (namedLayout.text other)

/-- A text without the zeros at its end, and without a point that is then left at the end. -/
def trimFraction (t : Text) : Text :=
  match t.reverse.dropWhile (· == '0') with
  | '.' :: whole => whole.reverse
  | kept => kept.reverse

/-- A text without the first point behind which nothing but zeros stands, one at least, and without
those zeros. -/
def dropZeroFraction : Text → Text
  | [] => []
  | c :: t =>
    if c = '.' ∧ t ≠ [] ∧ t.all (· == '0') then [] else c :: dropZeroFraction t

/-- Where there is no point nothing is found. -/
theorem dropZeroFraction_of_notMem {t : Text} (h : '.' ∉ t) : dropZeroFraction t = t := by
  induction t with
  | nil => rfl
  | cons c t ih =>
    rw [List.mem_cons, not_or] at h
    rw [dropZeroFraction, if_neg fun hfound => h.1 hfound.1.symm, ih h.2]

/-- A text with decimal places without superfluous parts: no zero ends a fraction, no point ends the
text, and zero has no sign. A text with an exponent stays as it is; one without places is searched
for a fraction of zeros all the same. -/
def shortened (hasFraction : Bool) (fixed : Text) : Text :=
  if fixed.contains 'e' then fixed
  else
    let trimmed := if hasFraction then trimFraction fixed else dropZeroFraction fixed
    if trimmed = "-0".toList then "0".toList else trimmed

/-- A double with at most `places` decimal places. -/
def formatNumber (x : Float) (places : Nat) : Except FixedError Text :=
  (toFixed x places).map (shortened (0 < places))

/-! ## Any whole number of places -/

/-- The most digits that a number can be rounded to. -/
def mostDigits : Int := 999999999999999999

/-- Machine words are below this number. -/
def wordLimit : Int := Nat.pow 2 63

/-- The last decimal place that a number can have. -/
def lastPlace : Nat := 1000026

/-- The last decimal place that can be asked for; those behind the last place of numbers count as
that one. -/
def lastNamedPlace : Nat := 2000054

/-- Refuses a count of digits that no rounding can have. -/
def checkWidth (width : Int) : Except FixedError Unit :=
  if width < -wordLimit ∨ wordLimit ≤ width then .error .hugeWidth
  else if width < 1 ∨ mostDigits < width then .error .width
  else .ok ()

/-- `significand * 2 ^ exponent` rounded to the nearest number that ends with as many zeros, a tie
away from zero. -/
def roundedText (negative : Bool) (significand : Nat) (exponent : Int) (zeros : Nat) : Text :=
  let units := roundQuotientAway (significand * Nat.pow 2 exponent.toNat)
    (Nat.pow 2 (-exponent).toNat * Nat.pow 10 zeros)
  (if negative then ['-'] else [])
    ++ if units = 0 then ['0'] else Nat.toDigits 10 units ++ List.replicate zeros '0'

/-- A double with any whole number of decimal places; below zero it is rounded to tens, hundreds
and so on. -/
def toPlaces (x : Float) (places : Int) : Except FixedError Text :=
  match Binary64.ofFloat x with
  | .finite negative significand exponent =>
    if x.abs < fixedLimit then
      match checkWidth (fixedWidth significand exponent 0 + places), places with
      | .error e, _ => .error e
      | .ok _, .ofNat n =>
        if lastNamedPlace < n then .error .tooWide else toFixed x (min n lastPlace)
      | .ok _, .negSucc n => .ok (roundedText negative significand exponent (n + 1))
    else toFixed x 0
  | _ => toFixed x 0

/-- A double for which a fraction of a place is asked for: only what has no places can be written. -/
def toFraction (x : Float) : Except FixedError Text :=
  if x.abs < fixedLimit then .error .fractional else toFixed x 0

end CssColor

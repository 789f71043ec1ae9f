import CssColor.Number.Binary64
import CssColor.Text.Integer

/-!
# The fewest digits that read back

- `shortestDigits`: the decimal number of fewest digits among those that round
  to a given double, and of these the nearest to it.
- `FloatLayout`, `FloatLayout.text`: how the digits are laid out, positional or
  with an exponent.
- `floatText`: the text of a double in the layout that reports and literals
  use.
- `namedLayout`: the same layout with the full names of what is not finite, for
  numbers that are written out.
-/

namespace CssColor

/-- A decimal number `digits * 10 ^ exponent`. -/
structure Decimal where
  digits : Nat
  exponent : Int
  deriving DecidableEq, Repr

/-- The count of decimal digits of a number. -/
def digitCount (n : Nat) : Nat :=
  (Nat.toDigits 10 n).length

/-- The place of the first digit of `num / den`: the least `k` with `num / den < 10 ^ k`. -/
def leadingPlace (num den : Nat) : Int :=
  if den ≤ num then digitCount (num / den)
  else 1 - (digitCount ((den - 1) / num) : Int)

/-- The numbers that round to one double lie between two quotients over a common denominator. -/
structure RoundingInterval where
  low : Nat
  value : Nat
  high : Nat
  den : Nat
  closed : Bool

/-- The interval of numbers that round to `significand * 2 ^ exponent`. Below a power of two the
doubles lie twice as close; a tie goes to the even significand. -/
def RoundingInterval.ofFinite (significand : Nat) (exponent : Int) : RoundingInterval :=
  let narrow := decide (significand = Nat.pow 2 52 ∧ -1074 < exponent)
  let up := Nat.pow 2 (exponent - 2).toNat
  let den := Nat.pow 2 (2 - exponent).toNat
  { low := (4 * significand - if narrow then 1 else 2) * up
    value := 4 * significand * up
    high := (4 * significand + 2) * up
    den := den
    closed := significand % 2 = 0 }

/-- Whether `n * 10 ^ exponent` lies in the interval. -/
def RoundingInterval.holds (i : RoundingInterval) (n : Nat) (exponent : Int) : Bool :=
  let left := n * Nat.pow 10 exponent.toNat * i.den
  let scale := Nat.pow 10 (-exponent).toNat
  if i.closed then i.low * scale ≤ left && left ≤ i.high * scale
  else i.low * scale < left && left < i.high * scale

/-- The multiple of `10 ^ exponent` in the interval that is nearest to its value, if one of the
two neighbours of the value lies in it; of two as near, the even one. -/
def RoundingInterval.onGrid? (i : RoundingInterval) (exponent : Int) : Option Nat :=
  let num := i.value * Nat.pow 10 (-exponent).toNat
  let den := i.den * Nat.pow 10 exponent.toNat
  let below := num / den
  let twice := 2 * (num % den)
  match i.holds below exponent, i.holds (below + 1) exponent with
  | true, true =>
    if twice < den ∨ (twice = den ∧ below % 2 = 0) then some below else some (below + 1)
  | true, false => some below
  | false, true => some (below + 1)
  | false, false => none

/-- The first grid of `count` digits or more, up to `count + fuel`, that meets the interval. -/
def RoundingInterval.search (i : RoundingInterval) (place : Int) : Nat → Nat → Decimal
  | 0, count => ⟨i.value / i.den, place - count⟩
  | fuel + 1, count =>
    match i.onGrid? (place - count) with
    | some digits => ⟨digits, place - count⟩
    | none => i.search place fuel (count + 1)

/-- The digits without the zeros at their end. -/
def Decimal.trimmed (d : Decimal) : Text × Int :=
  let all := Nat.toDigits 10 d.digits
  let kept := (all.reverse.dropWhile (· == '0')).reverse
  (kept, d.exponent + all.length)

/-- The fewest digits that read back as `significand * 2 ^ exponent`, and the place of the decimal
point among them: the number is `0.digits * 10 ^ place`. Seventeen digits always do. -/
def shortestDigits (significand : Nat) (exponent : Int) : Text × Int :=
  let i := RoundingInterval.ofFinite significand exponent
  (i.search (leadingPlace i.value i.den) 17 1).trimmed

/-! ## Layout -/

/-- How a double is laid out: the places of the decimal point that are written positionally, the
least count of digits in an exponent, and the texts of what is not finite. -/
structure FloatLayout where
  leastPlace : Int
  mostPlace : Int
  exponentDigits : Nat
  nan : Text
  infinity : Text

/-- Digits with the decimal point at `place` written out. -/
def positionalText (digits : Text) (place : Int) : Text :=
  if place ≤ 0 then
    "0.".toList ++ List.replicate (-place).toNat '0' ++ digits
  else if digits.length ≤ place.toNat then
    digits ++ List.replicate (place.toNat - digits.length) '0' ++ ".0".toList
  else digits.take place.toNat ++ '.' :: digits.drop place.toNat

/-- Digits with one in front of the point and a power of ten behind them. -/
def FloatLayout.exponentText (layout : FloatLayout) (digits : Text) (place : Int) : Text :=
  let power := place - 1
  let shown := natText power.natAbs
  digits.take 1
    ++ (if digits.length ≤ 1 then [] else '.' :: digits.drop 1)
    ++ ['e', if power < 0 then '-' else '+']
    ++ List.replicate (layout.exponentDigits - shown.length) '0' ++ shown

/-- The text of a value in a layout. -/
def FloatLayout.text (layout : FloatLayout) : Binary64 → Text
  | .nan => layout.nan
  | .infinite negative => (if negative then ['-'] else []) ++ layout.infinity
  | .finite negative significand exponent =>
    (if negative then ['-'] else []) ++
      (if significand = 0 then "0.0".toList
       else
        let (digits, place) := shortestDigits significand exponent
        if layout.leastPlace ≤ place ∧ place ≤ layout.mostPlace then positionalText digits place
        else layout.exponentText digits place)

/-- Numbers from 0.0001 up to 10^16 are written positionally, others with an exponent of at least
two digits. -/
def literalLayout : FloatLayout where
  leastPlace := -3
  mostPlace := 16
  exponentDigits := 2
  nan := "nan".toList
  infinity := "inf".toList

/-- The text of a double in a literal or a report. -/
def floatText (x : Float) : Text :=
  literalLayout.text (Binary64.ofFloat x)

/-- The same numbers, with the full names of what is not finite. -/
def namedLayout : FloatLayout :=
  { literalLayout with nan := "NaN".toList, infinity := "Infinity".toList }

end CssColor

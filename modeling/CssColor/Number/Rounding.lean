import CssColor.Number.Binary64
import CssColor.Text.Quoted

/-!
# Rounding and limiting

- `larger`, `smaller`, `clamp`: limits that keep their first argument when the
  two cannot be compared.
- `roundHalfUp`: the whole number nearest to a double, by adding a half.
- `truncate`: the whole number that a double has before its point.
- `hexByte`: a channel value as two hexadecimal digits.
- `finiteOrZero`: zero in place of what is not finite.
-/

namespace CssColor

/-- The second value if it is strictly above the first, else the first. -/
def larger {α : Type} [LT α] [DecidableLT α] (a b : α) : α :=
  if a < b then b else a

/-- The second value if it is strictly below the first, else the first. -/
def smaller {α : Type} [LT α] [DecidableLT α] (a b : α) : α :=
  if b < a then b else a

/-- A value limited to the range from `low` to `high`. -/
def clamp {α : Type} [LT α] [DecidableLT α] (value low high : α) : α :=
  smaller high (larger low value)

/-- Of whole numbers the greater one. -/
theorem larger_eq_max (a b : Int) : larger a b = max a b := by
  unfold larger
  split <;> omega

/-- Of whole numbers the lesser one. -/
theorem smaller_eq_min (a b : Int) : smaller a b = min a b := by
  unfold smaller
  split <;> omega

/-- A limited whole number is in range. -/
theorem clamp_range (n : Int) {low high : Int} (h : low ≤ high) :
    low ≤ clamp n low high ∧ clamp n low high ≤ high := by
  simp only [clamp, larger_eq_max, smaller_eq_min]
  omega

/-- A whole number in range is not changed. -/
theorem clamp_of_range {n low high : Int} (hlow : low ≤ n) (hhigh : n ≤ high) :
    clamp n low high = n := by
  simp only [clamp, larger_eq_max, smaller_eq_min]
  omega

/-- A double limited to the range from zero to one. -/
def clampUnit (x : Float) : Float :=
  clamp x 0.0 1.0

/-- Why a double has no whole part. -/
inductive WholeError where
  | notANumber
  | infinite
  deriving DecidableEq, Repr

/-- The message of the error. -/
def WholeError.message : WholeError → Text
  | .notANumber => "cannot convert float NaN to integer".toList
  | .infinite => "cannot convert float infinity to integer".toList

/-- The greatest whole number that is not above a finite value. -/
def floorFinite (negative : Bool) (significand : Nat) (exponent : Int) : Int :=
  let signed : Int := if negative then -(significand : Int) else significand
  if exponent < 0 then signed.fdiv (Nat.pow 2 (-exponent).toNat)
  else signed * Nat.pow 2 exponent.toNat

/-- The greatest whole number that is not above a double. -/
def floorFloat (x : Float) : Except WholeError Int :=
  match Binary64.ofFloat x with
  | .nan => .error .notANumber
  | .infinite _ => .error .infinite
  | .finite negative significand exponent => .ok (floorFinite negative significand exponent)

/-- The whole number that is left when the digits after the point of a double are cut. -/
def truncate (x : Float) : Except WholeError Int :=
  match Binary64.ofFloat x with
  | .nan => .error .notANumber
  | .infinite _ => .error .infinite
  | .finite negative significand exponent =>
    let whole := floorFinite false significand exponent
    .ok (if negative then -whole else whole)

/-- The nearest whole number, halves going up; the half is added as a double. -/
def roundHalfUp (x : Float) : Except WholeError Int :=
  floorFloat (x + 0.5)

/-- Two hexadecimal digits for a whole number from 0 to 255. -/
def byteDigits (n : Int) : Text :=
  hexDigits 2 (clamp n 0 255).toNat

/-- Two hexadecimal digits for a channel value, rounded and limited to a byte. -/
def hexByte (x : Float) : Except WholeError Text :=
  (roundHalfUp x).map byteDigits

/-- The double itself if it is finite, else zero. -/
def finiteOrZero (x : Float) : Float :=
  match Binary64.ofFloat x with
  | .finite .. => x
  | _ => 0.0

end CssColor

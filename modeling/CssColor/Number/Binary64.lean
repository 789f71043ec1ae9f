/-!
# Doubles as exact numbers

- `Binary64`: what a double stands for: no number, an infinity, or a whole
  number times a power of two.
- `Binary64.ofFloat`: the value of a double, read off its bits.
- `Binary64.nearest`: the double nearest to a quotient, ties going to the even
  significand.
- `decimalFloat`: the double nearest to a decimal number.
-/

namespace CssColor

/-- What a double stands for; a finite one is `significand * 2 ^ exponent`, with a sign of its own
that zero has too. -/
inductive Binary64 where
  | nan
  | infinite (negative : Bool)
  | finite (negative : Bool) (significand : Nat) (exponent : Int)
  deriving DecidableEq, Repr

namespace Binary64

/-- The value that 64 bits stand for. -/
def ofBits (bits : Nat) : Binary64 :=
  let negative := decide (bits / Nat.pow 2 63 % 2 = 1)
  let exponent : Nat := bits / Nat.pow 2 52 % Nat.pow 2 11
  let fraction : Nat := bits % Nat.pow 2 52
  if exponent = 2047 then
    if fraction = 0 then .infinite negative else .nan
  else if exponent = 0 then .finite negative fraction (-1074)
  else .finite negative (Nat.pow 2 52 + fraction) ((exponent : Int) - 1075)

/-- The value of a double. -/
def ofFloat (x : Float) : Binary64 :=
  ofBits x.toBits.toNat

/-- The double with the given sign whose other 63 bits are `magnitude`, or the infinity of that
sign if the bits leave the finite doubles. -/
def floatOfMagnitude (negative : Bool) (magnitude : Nat) : Float :=
  let bits := if magnitude < 2047 * Nat.pow 2 52 then magnitude else 2047 * Nat.pow 2 52
  Float.ofBits (UInt64.ofNat (if negative then Nat.pow 2 63 + bits else bits))

/-- The double that is no number. -/
def nanFloat : Float :=
  Float.ofBits 0x7ff8000000000000

/-- The infinity of a sign. -/
def infiniteFloat (negative : Bool) : Float :=
  floatOfMagnitude negative (2047 * Nat.pow 2 52)

/-- A quotient rounded to the nearest whole number, a tie to the even neighbour. -/
def roundQuotientEven (num den : Nat) : Nat :=
  let quotient := num / den
  let twice := 2 * (num % den)
  if den < twice ∨ (twice = den ∧ quotient % 2 = 1) then quotient + 1 else quotient

/-- The exponent of the unit in the last place of a double near `num / den`. -/
def unitExponent (num den : Nat) : Int :=
  let guess : Int := (Nat.log2 num : Int) - (Nat.log2 den : Int) - 52
  let small :=
    if guess < 0 then num * Nat.pow 2 (-guess).toNat < Nat.pow 2 52 * den
    else num < Nat.pow 2 52 * den * Nat.pow 2 guess.toNat
  max (if small then guess - 1 else guess) (-1074)

/-- The double nearest to `num / den`, a tie going to the even significand; `den` is not zero. -/
def nearest (negative : Bool) (num den : Nat) : Float :=
  if num = 0 then floatOfMagnitude negative 0
  else
    let exponent := unitExponent num den
    let significand :=
      if exponent < 0 then roundQuotientEven (num * Nat.pow 2 (-exponent).toNat) den
      else roundQuotientEven num (den * Nat.pow 2 exponent.toNat)
    floatOfMagnitude negative ((exponent + 1074).toNat * Nat.pow 2 52 + significand)

end Binary64

/-- The double nearest to `digits * 10 ^ exponent`; a magnitude out of reach of the doubles is
settled by the count of digits. -/
def decimalFloat (negative : Bool) (digits : Nat) (exponent : Int) : Float :=
  let place := (Nat.toDigits 10 digits).length + exponent
  if digits = 0 ∨ place < -400 then Binary64.floatOfMagnitude negative 0
  else if 400 < place then Binary64.infiniteFloat negative
  else if exponent < 0 then Binary64.nearest negative digits (Nat.pow 10 (-exponent).toNat)
  else Binary64.nearest negative (digits * Nat.pow 10 exponent.toNat) 1

end CssColor

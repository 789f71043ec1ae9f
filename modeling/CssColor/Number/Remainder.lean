import CssColor.Number.Binary64

/-!
# Remainders and powers of doubles

- `floorRemainder`: the remainder that has the sign of the divisor.
- `power?`: a power, refused where finite numbers give an infinite one.
- `cosine?`, `sine?`: refused of an infinite angle.
-/

namespace CssColor

/-- The exact remainder of one magnitude by another, as a double. -/
def magnitudeRemainder (s₁ : Nat) (e₁ : Int) (s₂ : Nat) (e₂ : Int) : Float :=
  let e := min e₁ e₂
  let rest := (s₁ * Nat.pow 2 (e₁ - e).toNat) % (s₂ * Nat.pow 2 (e₂ - e).toNat)
  if e < 0 then Binary64.nearest false rest (Nat.pow 2 (-e).toNat)
  else Binary64.nearest false (rest * Nat.pow 2 e.toNat) 1

/-- The remainder of a division by a positive double whose quotient is rounded down: the exact
remainder toward zero, with the divisor added if it is negative. It is no number if the dividend is
not finite. -/
def floorRemainder (x divisor : Float) : Float :=
  match Binary64.ofFloat x, Binary64.ofFloat divisor with
  | .finite negative s₁ e₁, .finite _ s₂ e₂ =>
    let r := magnitudeRemainder s₁ e₁ s₂ e₂
    if r == 0.0 then 0.0
    else if negative then -r + divisor
    else r
  | _, _ => Binary64.nanFloat

/-- A power, unless it is infinite while base and exponent are finite. -/
def power? (x y : Float) : Option Float :=
  let r := x.pow y
  if r.isInf && x.isFinite && y.isFinite then none else some r

/-- The cosine of a finite angle in radians. -/
def cosine? (x : Float) : Option Float :=
  if x.isInf then none else some x.cos

/-- The sine of a finite angle in radians. -/
def sine? (x : Float) : Option Float :=
  if x.isInf then none else some x.sin

/-- The magnitude of the first number with the sign of the second. -/
def withSign (magnitude sign : Float) : Float :=
  if sign.toBits.toNat / Nat.pow 2 63 = 1 then -magnitude else magnitude

/-- The root of a number, with its sign. -/
def root? (x degree : Float) : Option Float :=
  if x == 0.0 then some 0.0
  else (power? x.abs (1.0 / degree)).map (withSign · x)

end CssColor

import CssColor.Color.Basic
import CssColor.Number.Remainder

/-!
# Transfer functions

The components of an RGB space and those of its linear form are bound by a
curve for each space. A curve fails where a power overflows.
-/

namespace CssColor

namespace Transfer

/-- The curve of sRGB and Display P3, to linear light. -/
def srgbToLinear? (v : Float) : Option Float :=
  if 0.04045 < v.abs then (power? ((v.abs + 0.055) / 1.055) 2.4).map (withSign · v)
  else some (v / 12.92)

/-- The curve of sRGB and Display P3, from linear light. -/
def srgbOfLinear? (v : Float) : Option Float :=
  if 0.0031308 < v.abs then
    (root? v.abs 2.4).map fun r => withSign (1.055 * r - 0.055) v
  else some (12.92 * v)

/-- A power of the magnitude with the sign of the number. -/
def signedPower? (exponent v : Float) : Option Float :=
  (power? v.abs exponent).map (withSign · v)

/-- The curve of A98 RGB, to linear light. -/
def a98ToLinear? : Float → Option Float :=
  signedPower? (563.0 / 256.0)

/-- The curve of A98 RGB, from linear light. -/
def a98OfLinear? : Float → Option Float :=
  signedPower? (256.0 / 563.0)

/-- The curve of Rec. 2020, to linear light. -/
def rec2020ToLinear? : Float → Option Float :=
  signedPower? 2.4

/-- The curve of Rec. 2020, from linear light. -/
def rec2020OfLinear? : Float → Option Float :=
  signedPower? (1.0 / 2.4)

/-- The curve of ProPhoto RGB, to linear light. -/
def prophotoToLinear? (v : Float) : Option Float :=
  if v.abs < 16.0 / 512.0 then some (v / 16.0) else signedPower? 1.8 v

/-- The curve of ProPhoto RGB, from linear light. -/
def prophotoOfLinear? (v : Float) : Option Float :=
  if v.abs < 1.0 / 512.0 then some (16.0 * v) else signedPower? (1.0 / 1.8) v

end Transfer

end CssColor

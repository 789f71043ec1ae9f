import CssColor.Text.Basic

/-!
# Colour spaces

- `Space`: the spaces that colours are written in or passed through.
- `Space.name`: the name by which a space is asked for.
- `Space.bases`: the spaces that a space is defined over, nearest first; every
  chain ends in XYZ with the D65 white.
-/

namespace CssColor

/-- A colour space. -/
inductive Space where
  | srgb
  | srgbLinear
  | displayP3
  | displayP3Linear
  | a98Rgb
  | a98RgbLinear
  | rec2020
  | rec2020Linear
  | prophotoRgb
  | prophotoRgbLinear
  | xyzD50
  | xyzD65
  | hsl
  | hsv
  | hwb
  | lab
  | lch
  | oklab
  | oklch
  | labD65
  | lchD65
  deriving DecidableEq, Repr

namespace Space

/-- All spaces. -/
def all : List Space :=
  [srgb, srgbLinear, displayP3, displayP3Linear, a98Rgb, a98RgbLinear, rec2020, rec2020Linear,
   prophotoRgb, prophotoRgbLinear, xyzD50, xyzD65, hsl, hsv, hwb, lab, lch, oklab, oklch, labD65,
   lchD65]

/-- The name of a space. -/
def name : Space → Text
  | srgb => "srgb".toList
  | srgbLinear => "srgb-linear".toList
  | displayP3 => "display-p3".toList
  | displayP3Linear => "display-p3-linear".toList
  | a98Rgb => "a98-rgb".toList
  | a98RgbLinear => "a98-rgb-linear".toList
  | rec2020 => "rec2020".toList
  | rec2020Linear => "rec2020-linear".toList
  | prophotoRgb => "prophoto-rgb".toList
  | prophotoRgbLinear => "prophoto-rgb-linear".toList
  | xyzD50 => "xyz-d50".toList
  | xyzD65 => "xyz-d65".toList
  | hsl => "hsl".toList
  | hsv => "hsv".toList
  | hwb => "hwb".toList
  | lab => "lab".toList
  | lch => "lch".toList
  | oklab => "oklab".toList
  | oklch => "oklch".toList
  | labD65 => "lab-d65".toList
  | lchD65 => "lch-d65".toList

/-- The space with the given name. -/
def ofName? (t : Text) : Option Space :=
  all.find? fun s => s.name == t

/-- The spaces under a space, nearest first. -/
def bases : Space → List Space
  | xyzD65 => []
  | xyzD50 => [xyzD65]
  | srgbLinear | displayP3Linear | a98RgbLinear | rec2020Linear => [xyzD65]
  | prophotoRgbLinear => [xyzD50, xyzD65]
  | srgb => [srgbLinear, xyzD65]
  | displayP3 => [displayP3Linear, xyzD65]
  | a98Rgb => [a98RgbLinear, xyzD65]
  | rec2020 => [rec2020Linear, xyzD65]
  | prophotoRgb => [prophotoRgbLinear, xyzD50, xyzD65]
  | hsl => [srgb, srgbLinear, xyzD65]
  | hsv => [srgb, srgbLinear, xyzD65]
  | hwb => [hsv, srgb, srgbLinear, xyzD65]
  | lab => [xyzD50, xyzD65]
  | lch => [lab, xyzD50, xyzD65]
  | oklab => [xyzD65]
  | oklch => [oklab, xyzD65]
  | labD65 => [xyzD65]
  | lchD65 => [labD65, xyzD65]

/-- A space with those under it. -/
def chain (s : Space) : List Space :=
  s :: s.bases

end Space

end CssColor

import CssColor.Color.Cylinder
import CssColor.Color.Matrix
import CssColor.Color.Transfer

/-!
# Converting colours between spaces

- `Space.toBase?`, `Space.ofBase?`: one step between a space and the nearest
  below it.
- `Space.convert?`: from one space up to the first space that both stand on,
  and down to the other.
- `Color.inSpace?`: a colour in another space. A conversion fails only where a
  power overflows or an angle is infinite.
-/

namespace CssColor

namespace Lab

/-- The factor of the linear part of the lightness curve. -/
def kappa : Float := 24389.0 / 27.0

/-- The value below which the lightness curve is linear. -/
def epsilon : Float := 216.0 / 24389.0

/-- The D50 white. -/
def whiteD50 : Channels := ⟨0.9642956764295677, 1.0, 0.8251046025104602⟩

/-- The D65 white. -/
def whiteD65 : Channels := ⟨0.9504559270516716, 1.0, 1.0890577507598784⟩

/-- A component of XYZ from its place on the lightness curve. -/
def ofCurve? (f : Float) : Option Float :=
  if 6.0 / 29.0 < f then power? f 3.0 else some ((116.0 * f - 16.0) / kappa)

/-- The place of a component of XYZ on the lightness curve. -/
def toCurve? (v : Float) : Option Float :=
  if epsilon < v then root? v 3.0 else some ((kappa * v + 16.0) / 116.0)

/-- Lab to XYZ under a white. -/
def toXyz? (white : Channels) (v : Channels) : Option Channels :=
  let fy := (v.x + 16.0) / 116.0
  let fx := v.y / 500.0 + fy
  let fz := fy - v.z / 200.0
  let y := if 8.0 < v.x then power? fy 3.0 else some (v.x / kappa)
  match ofCurve? fx, y, ofCurve? fz with
  | some x, some y, some z => some ⟨x * white.x, y * white.y, z * white.z⟩
  | _, _, _ => none

/-- XYZ to Lab under a white. -/
def ofXyz? (white : Channels) (v : Channels) : Option Channels :=
  match toCurve? (v.x / white.x), toCurve? (v.y / white.y), toCurve? (v.z / white.z) with
  | some fx, some fy, some fz =>
    some ⟨116.0 * fy - 16.0, 500.0 * (fx - fy), 200.0 * (fy - fz)⟩
  | _, _, _ => none

/-- Oklab to XYZ. -/
def okToXyz? (v : Channels) : Option Channels :=
  ((Matrix.oklabToLms.apply v).mapM? (power? · 3.0)).map Matrix.lmsToXyz.apply

/-- XYZ to Oklab. -/
def okOfXyz? (v : Channels) : Option Channels :=
  ((Matrix.xyzToLms.apply v).mapM? (root? · 3.0)).map Matrix.lmsToOklab.apply

end Lab

namespace Space

/-- Components in the nearest base of a space; the last base is its own. -/
def toBase? (v : Channels) : Space → Option Channels
  | srgb | displayP3 => v.mapM? Transfer.srgbToLinear?
  | a98Rgb => v.mapM? Transfer.a98ToLinear?
  | rec2020 => v.mapM? Transfer.rec2020ToLinear?
  | prophotoRgb => v.mapM? Transfer.prophotoToLinear?
  | srgbLinear => some (Matrix.srgbToXyz.apply v)
  | displayP3Linear => some (Matrix.displayP3ToXyz.apply v)
  | a98RgbLinear => some (Matrix.a98ToXyz.apply v)
  | rec2020Linear => some (Matrix.rec2020ToXyz.apply v)
  | prophotoRgbLinear => some (Matrix.prophotoToXyz.apply v)
  | xyzD50 => some (Matrix.d50ToD65.apply v)
  | xyzD65 => some v
  | hsl => some (Cylinder.hslToRgb v)
  | hsv => some (Cylinder.hsvToRgb v)
  | hwb => some (Cylinder.hwbToHsv v)
  | lab => Lab.toXyz? Lab.whiteD50 v
  | labD65 => Lab.toXyz? Lab.whiteD65 v
  | oklab => Lab.okToXyz? v
  | lch | lchD65 | oklch => Cylinder.labOfPolar? v

/-- Components in a space from those in its nearest base. -/
def ofBase? (v : Channels) : Space → Option Channels
  | srgb | displayP3 => v.mapM? Transfer.srgbOfLinear?
  | a98Rgb => v.mapM? Transfer.a98OfLinear?
  | rec2020 => v.mapM? Transfer.rec2020OfLinear?
  | prophotoRgb => v.mapM? Transfer.prophotoOfLinear?
  | srgbLinear => some (Matrix.xyzToSrgb.apply v)
  | displayP3Linear => some (Matrix.xyzToDisplayP3.apply v)
  | a98RgbLinear => some (Matrix.xyzToA98.apply v)
  | rec2020Linear => some (Matrix.xyzToRec2020.apply v)
  | prophotoRgbLinear => some (Matrix.xyzToProphoto.apply v)
  | xyzD50 => some (Matrix.d65ToD50.apply v)
  | xyzD65 => some v
  | hsl => some (Cylinder.rgbToHsl v)
  | hsv => some (Cylinder.rgbToHsv v)
  | hwb => some (Cylinder.hsvToHwb v)
  | lab => Lab.ofXyz? Lab.whiteD50 v
  | labD65 => Lab.ofXyz? Lab.whiteD65 v
  | oklab => Lab.okOfXyz? v
  | lch | lchD65 | oklch => Cylinder.polarOfLab? v

/-- Climbs from a space through its bases up to the first that is among `goals`: that space, and
the components in it. -/
def climb? (goals : List Space) (s : Space) (v : Channels) : List Space → Option (Space × Channels)
  | [] => if goals.contains s then some (s, v) else none
  | base :: more =>
    if goals.contains s then some (s, v)
    else (s.toBase? v).bind fun w => climb? goals base w more

/-- Goes down through spaces, each the nearest base of the next. -/
def descend? (v : Channels) : List Space → Option Channels
  | [] => some v
  | s :: more => (s.ofBase? v).bind (descend? · more)

/-- Components in one space from those in another. -/
def convert? (source target : Space) (v : Channels) : Option Channels :=
  match climb? target.chain source v source.bases with
  | some (meeting, w) => descend? w (target.chain.takeWhile (· ≠ meeting)).reverse
  | none => none

end Space

/-- A colour in another space: undefined components count as zero, alpha is kept, and a result
without colour has no hue. A colour that is in the space is left as it is. -/
def Color.inSpace? (c : Color) (target : Space) : Option Color :=
  if c.space = target then some c
  else (c.space.convert? target (c.channels.map definedOrZero)).map fun v =>
    { c with
      space := target
      channels := if target.isAchromatic v then target.withoutHue v else v }

end CssColor

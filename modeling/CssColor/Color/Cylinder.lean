import CssColor.Color.Basic
import CssColor.Number.Remainder

/-!
# Spaces with a hue

The RGB cylinders HSL, HSV and HWB, and the polar forms of the Lab spaces.

- `hslToRgb`, `rgbToHsl`, `hsvToRgb`, `rgbToHsv`, `hwbToHsv`, `hsvToHwb`,
  `polarOfLab?`, `labOfPolar?`: the two directions of each.
- `Space.isAchromatic`, `Space.withoutHue`: colours without a hue.
-/

namespace CssColor

namespace Cylinder

/-- A hue from zero up to 360 degrees. -/
def fullTurn (h : Float) : Float :=
  floorRemainder h 360.0

/-- HSL to RGB. -/
def hslToRgb (v : Channels) : Channels :=
  let h := fullTurn v.x / 30.0
  let s := v.y
  let l := v.z
  let f (n : Float) : Float :=
    let k := floorRemainder (n + h) 12.0
    let a := s * smaller l (1.0 - l)
    l - a * larger (-1.0) (smaller (smaller (k - 3.0) (9.0 - k)) 1.0)
  ⟨f 0.0, f 8.0, f 4.0⟩

/-- HSV to RGB. -/
def hsvToRgb (c : Channels) : Channels :=
  let h := fullTurn c.x / 60.0
  let s := c.y
  let v := c.z
  let f (n : Float) : Float :=
    let k := floorRemainder (n + h) 6.0
    v - v * s * larger 0.0 (smaller (smaller k (4.0 - k)) 1.0)
  ⟨f 5.0, f 3.0, f 1.0⟩

/-- The greatest component. -/
def greatest (v : Channels) : Float :=
  larger (larger v.x v.y) v.z

/-- The least component. -/
def least (v : Channels) : Float :=
  smaller (smaller v.x v.y) v.z

/-- The hue of an RGB colour in degrees; zero if all components are equal. -/
def hueOfRgb (v : Channels) : Float :=
  let most := greatest v
  let c := most - least v
  if c == 0.0 then 0.0
  else
    (if most == v.x then (v.y - v.z) / c
     else if most == v.y then (v.z - v.x) / c + 2.0
     else (v.x - v.y) / c + 4.0) * 60.0

/-- RGB to HSL; a negative saturation is turned into its opposite hue. -/
def rgbToHsl (v : Channels) : Channels :=
  let most := greatest v
  let fewest := least v
  let l := (fewest + most) / 2.0
  let s :=
    if most - fewest == 0.0 then 0.0
    else if l == 0.0 || l == 1.0 then 0.0
    else (most - l) / smaller l (1.0 - l)
  let h := hueOfRgb v
  if s < 0.0 then ⟨fullTurn (h + 180.0), -s, l⟩ else ⟨fullTurn h, s, l⟩

/-- RGB to HSV. -/
def rgbToHsv (v : Channels) : Channels :=
  let most := greatest v
  let c := most - least v
  ⟨fullTurn (hueOfRgb v), if most == 0.0 then 0.0 else c / most, most⟩

/-- HWB to HSV; whiteness and blackness that fill the colour leave a gray. -/
def hwbToHsv (v : Channels) : Channels :=
  let w := v.y
  let b := v.z
  if w + b >= 1.0 then ⟨fullTurn v.x, 0.0, w / (w + b)⟩
  else
    let value := 1.0 - b
    ⟨fullTurn v.x, if value == 0.0 then 1.0 else 1.0 - w / value, value⟩

/-- HSV to HWB. -/
def hsvToHwb (v : Channels) : Channels :=
  ⟨fullTurn v.x, (1.0 - v.y) * v.z, 1.0 - v.z⟩

/-- The degrees of an angle in radians. -/
def degrees (x : Float) : Float :=
  x * 57.29577951308232

/-- The radians of an angle in degrees. -/
def radians (x : Float) : Float :=
  x * 0.017453292519943295

/-- Lightness, chroma and hue of a Lab colour. -/
def polarOfLab? (v : Channels) : Option Channels :=
  match power? v.y 2.0, power? v.z 2.0 with
  | some a, some b =>
    some ⟨v.x, Float.sqrt (a + b), fullTurn (degrees (Float.atan2 v.z v.y))⟩
  | _, _ => none

/-- The Lab colour of lightness, chroma and hue. -/
def labOfPolar? (v : Channels) : Option Channels :=
  match cosine? (radians v.z), sine? (radians v.z) with
  | some c, some s => some ⟨v.x, v.y * c, v.y * s⟩
  | _, _ => none

end Cylinder

/-- Whether a colour in a space with a hue has none: its saturation or chroma vanishes, or it is
black or white. -/
def Space.isAchromatic (space : Space) (v : Channels) : Bool :=
  let y := definedOrZero v.y
  let z := definedOrZero v.z
  match space with
  | .hsl => y.abs < 1e-6 || z == 0.0 || (1.0 - z).abs < 1e-6
  | .hsv => y.abs < 1e-6 || z == 0.0
  | .hwb => y + z >= 1.0 - 1e-7
  | .lch | .lchD65 => y.abs < 1e-4
  | .oklch => y.abs < 1e-6
  | _ => false

/-- The components with an undefined hue. -/
def Space.withoutHue (space : Space) (v : Channels) : Channels :=
  match space with
  | .hsl | .hsv | .hwb => { v with x := undefinedComponent }
  | .lch | .lchD65 | .oklch => { v with z := undefinedComponent }
  | _ => v

end CssColor

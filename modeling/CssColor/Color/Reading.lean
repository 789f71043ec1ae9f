import CssColor.Color.Basic
import CssColor.Color.Call
import CssColor.Color.Names

/-!
# Reading a colour token

- `Call.fits`: whether a call has the values that its function takes.
- `Color.read?`: the colour that a token writes, in the space it is written in;
  nothing is converted, limited or normalised, alpha apart.
-/

namespace CssColor

/-! ## Which values a function takes -/

/-- A fourth value comes after a slash. -/
def Call.slashBeforeFourth (c : Call) : Bool :=
  c.values.length ≠ 4 || c.slash

/-- The form of the values of `rgb`. -/
def Call.fitsRgb (c : Call) : Bool :=
  if c.commas then
    match c.values with
    | [r, g, b] => !r.isNone && !r.isAngle && r.sameKind g && r.sameKind b
    | [r, g, b, a] =>
      !r.isNone && !r.isAngle && r.sameKind g && r.sameKind b && !a.isNone && !a.isAngle
    | _ => false
  else c.slashBeforeFourth && c.values.all fun q => !q.isAngle

/-- The form of the values of `hsl`. -/
def Call.fitsHsl (c : Call) : Bool :=
  if c.commas then
    match c.values with
    | [h, s, l] => (h.isAngle || h.isNumber) && s.isPercent && l.isPercent
    | [h, s, l, a] =>
      (h.isAngle || h.isNumber) && s.isPercent && l.isPercent && !a.isNone && !a.isAngle
    | _ => false
  else
    match c.values with
    | h :: more => c.slashBeforeFourth && !h.isPercent && more.all fun q => !q.isAngle
    | [] => false

/-- The form of the values of `hwb`, which takes no commas. -/
def Call.fitsHwb (c : Call) : Bool :=
  !c.commas && c.fitsHsl

/-- The form of the values of `lab` and `oklab`. -/
def Call.fitsLab (c : Call) : Bool :=
  !c.commas && c.slashBeforeFourth && c.values.all fun q => !q.isAngle

/-- The form of the values of `lch` and `oklch`. -/
def Call.fitsLch (c : Call) : Bool :=
  match c.values with
  | l :: ch :: h :: more =>
    !c.commas && c.slashBeforeFourth && !l.isAngle && !ch.isAngle && !h.isPercent
      && more.all fun q => !q.isAngle
  | _ => false

/-- Three values, or four. -/
def Call.threeOrFour (c : Call) : Bool :=
  c.values.length == 3 || c.values.length == 4

/-! ## Components -/

/-- What a component is: an angle, or a quantity of which 100% is `span`. -/
inductive ComponentScale where
  | hue
  | span (full : Float)

/-- The degrees of an angle. -/
def AngleUnit.degrees (x : Float) : AngleUnit → Float
  | .deg => x
  | .rad => x * 57.29577951308232
  | .turn => x * 360.0
  | .grad => x * 0.9

/-- The hue that a value gives; a plain number counts degrees. -/
def Quantity.hue : Quantity → Float
  | .none => undefinedComponent
  | .number x => x
  | .percent x => x
  | .angle x unit => unit.degrees x

/-- A component from a value; `unit` is what a plain number counts in. A percentage of a span of
100 is its number. -/
def Quantity.component (unit : Float → Float) (scale : ComponentScale) (q : Quantity) : Float :=
  match scale, q with
  | _, .none => undefinedComponent
  | .hue, q => q.hue
  | .span _, .number x => unit x
  | .span full, .percent x => if full == 100.0 then x else x * full * 0.01
  | .span _, .angle x _ => unit x

/-- The alpha of a value, limited to the range from zero to one. -/
def Quantity.alpha : Quantity → Float
  | .none => undefinedComponent
  | .number x => clampUnit x
  | .percent x => clampUnit (x * 1.0 * 0.01)
  | .angle x _ => clampUnit x

/-- The scales of a space's three components. -/
def Space.scales : Space → ComponentScale × ComponentScale × ComponentScale
  | .hsl | .hsv | .hwb => (.hue, .span 1.0, .span 1.0)
  | .lab => (.span 100.0, .span 125.0, .span 125.0)
  | .lch => (.span 100.0, .span 150.0, .hue)
  | .oklab => (.span 1.0, .span 0.4, .span 0.4)
  | .oklch => (.span 1.0, .span 0.4, .hue)
  | .labD65 => (.span 100.0, .span 130.0, .span 130.0)
  | .lchD65 => (.span 100.0, .span 160.0, .hue)
  | _ => (.span 1.0, .span 1.0, .span 1.0)

/-- The colour in a space whose components and alpha are given by values; without a fourth it is
opaque. -/
def colorOfValues? (space : Space) (unit : Float → Float) : List Quantity → Option Color
  | [x, y, z] => some ⟨space, channels x y z, 1.0⟩
  | [x, y, z, a] => some ⟨space, channels x y z, a.alpha⟩
  | _ => none
where
  channels (x y z : Quantity) : Channels :=
    let (sx, sy, sz) := space.scales
    ⟨x.component unit sx, y.component unit sy, z.component unit sz⟩

/-! ## The function `color` -/

/-- The space that an identifier names inside `color`. Spaces that are not predefined for it bear
two hyphens. -/
def identifiedSpace? (id : Text) : Option Space :=
  let spelled : List (Text × Space) :=
    [("xyz".toList, .xyzD65), ("xyz-d65".toList, .xyzD65), ("xyz-d50".toList, .xyzD50),
     ("srgb".toList, .srgb), ("srgb-linear".toList, .srgbLinear),
     ("display-p3".toList, .displayP3), ("display-p3-linear".toList, .displayP3Linear),
     ("--display-p3-linear".toList, .displayP3Linear), ("rec2020".toList, .rec2020),
     ("a98-rgb".toList, .a98Rgb), ("prophoto-rgb".toList, .prophotoRgb),
     ("--rec2020-linear".toList, .rec2020Linear), ("--a98-rgb-linear".toList, .a98RgbLinear),
     ("--prophoto-rgb-linear".toList, .prophotoRgbLinear), ("--oklab".toList, .oklab),
     ("--oklch".toList, .oklch), ("--lab".toList, .lab), ("--lch".toList, .lch),
     ("--lab-d65".toList, .labD65), ("--lch-d65".toList, .lchD65), ("--hsv".toList, .hsv),
     ("--hsl".toList, .hsl), ("--hwb".toList, .hwb)]
  spelled.lookup id

/-- Whether a value can stand for a component: an angle has no percentage, nothing else a unit. -/
def ComponentScale.takes : ComponentScale → Quantity → Bool
  | .hue, q => !q.isPercent
  | .span _, q => !q.isAngle

/-- The colour that `color` writes: three values, and an alpha only after a slash. -/
def Call.identifiedColor? (c : Call) (id : Text) : Option Color :=
  match identifiedSpace? id with
  | none => none
  | some space =>
    let (sx, sy, sz) := space.scales
    match c.values, c.slash with
    | [x, y, z], false =>
      if sx.takes x && sy.takes y && sz.takes z then colorOfValues? space (·) c.values else none
    | [x, y, z, a], true =>
      if sx.takes x && sy.takes y && sz.takes z && !a.isAngle then
        colorOfValues? space (·) c.values
      else none
    | _, _ => none

/-! ## Tokens -/

/-- The colour that a call writes. Plain numbers count bytes in `rgb` and percentages in `hsl` and
`hwb`. -/
def Call.color? (c : Call) : Option Color :=
  match c.space with
  | some id => c.identifiedColor? id
  | none =>
    let byte (x : Float) : Float := x * (1.0 / 255.0)
    let percentage (x : Float) : Float := x * 1.0 * 0.01
    let takes (fits : Bool) (space : Space) (unit : Float → Float) : Option Color :=
      if c.threeOrFour && fits then colorOfValues? space unit c.values else none
    if c.name = "rgb".toList ∨ c.name = "rgba".toList then takes c.fitsRgb .srgb byte
    else if c.name = "hsl".toList ∨ c.name = "hsla".toList then takes c.fitsHsl .hsl percentage
    else if c.name = "hwb".toList then takes c.fitsHwb .hwb percentage
    else if c.name = "lab".toList then takes c.fitsLab .lab (·)
    else if c.name = "oklab".toList then takes c.fitsLab .oklab (·)
    else if c.name = "lch".toList then takes c.fitsLch .lch (·)
    else if c.name = "oklch".toList then takes c.fitsLch .oklch (·)
    else none

/-- A component from a byte. -/
def byteComponent (n : Nat) : Float :=
  n.toFloat * (1.0 / 255.0)

/-- The values of hexadecimal digits. -/
def hexValues? : Text → Option (List Nat)
  | [] => some []
  | c :: t =>
    match hexValue? c, hexValues? t with
    | some d, some ds => some (d :: ds)
    | _, _ => none

/-- The colour of a hex literal, after its `#`: of three or four digits each counts twice. -/
def hexColor? (digits : Text) : Option Color :=
  let color (r g b a : Nat) : Color :=
    ⟨.srgb, ⟨byteComponent r, byteComponent g, byteComponent b⟩, byteComponent a⟩
  let solid (r g b : Nat) : Color :=
    ⟨.srgb, ⟨byteComponent r, byteComponent g, byteComponent b⟩, 1.0⟩
  match hexValues? digits with
  | some [r, g, b] => some (solid (17 * r) (17 * g) (17 * b))
  | some [r, g, b, a] => some (color (17 * r) (17 * g) (17 * b) (17 * a))
  | some [r, s, g, h, b, c] => some (solid (16 * r + s) (16 * g + h) (16 * b + c))
  | some [r, s, g, h, b, c, a, d] =>
    some (color (16 * r + s) (16 * g + h) (16 * b + c) (16 * a + d))
  | _ => none

/-- The colour of a name; `transparent` is black without any opacity. -/
def nameColor? (name : Text) : Option Color :=
  if name = "transparent".toList then some ⟨.srgb, ⟨0.0, 0.0, 0.0⟩, 0.0⟩
  else (namedColor? name).map fun bytes =>
    ⟨.srgb,
      ⟨(bytes / 65536).toFloat / 255.0, (bytes / 256 % 256).toFloat / 255.0,
        (bytes % 256).toFloat / 255.0⟩, 1.0⟩

/-- The colour that a token of small letters without blanks around it writes. -/
def Color.parse? (t : Text) : Option Color :=
  match t with
  | '#' :: digits => hexColor? digits
  | _ =>
    match nameColor? t with
    | some color => some color
    | none => (Call.read? t).bind Call.color?

/-- The colour that a token writes, in any letter case and with blanks around it. -/
def Color.read? (token : Text) : Option Color :=
  Color.parse? token.trim.lowercase

end CssColor

import CssColor.Color.Library
import CssColor.Number.Fixed
import CssColor.Options

/-!
# Writing colours

- `Color.written`: the notation of a colour whose components are in the target's
  space.
- `ColorLibrary.render`, `Color.render`: any colour in the target's notation.
- `Color.writesNumbers`: whether that notation has a number with decimal places.
- `TokenError`: why a token is not converted.

OKLCH and HSL write their relative components as percentages, RGB and hex as
whole numbers from 0 to 255; the other notations write components as they are.
An alpha below one is always written, an alpha of one only where the options
keep it and the token spelled it out.
-/

namespace CssColor

/-- Why components cannot be written. -/
inductive NumberError where
  | whole (e : WholeError)
  | fixed (e : FixedError)
  deriving DecidableEq, Repr

namespace Rendering

/-- A number with the places that the options ask for. -/
def number (o : Options) (x : Float) : Except NumberError Text :=
  (formatNumber x o.precision).mapError .fixed

/-- The alpha of a colour; an undefined one is one. -/
def definedAlpha (c : Color) : Float :=
  if c.alpha.isNaN then 1.0 else c.alpha

/-- Whether an alpha is written. -/
def writesAlpha (o : Options) (alpha : Float) : Bool :=
  alpha < 1.0 || (o.useOpacity && o.explicitAlpha)

/-- The end of a function's values: a slash and the alpha, if it is written. -/
def alphaPart (o : Options) (c : Color) : Except NumberError Text :=
  let alpha := definedAlpha c
  if writesAlpha o alpha then
    (number o alpha).map fun t => " / ".toList ++ t
  else .ok []

/-- The components of a colour, zero in place of what is not finite. -/
def finiteChannels (c : Color) : Channels :=
  c.channels.map finiteOrZero

/-- A component from zero to one as a whole number from 0 to 255. -/
def byte (x : Float) : Except NumberError Int :=
  (roundHalfUp (clampUnit x * 255.0)).mapError .whole

/-- Red, green and blue as whole numbers. -/
def bytes (c : Color) : Except NumberError (Int × Int × Int) := do
  let v := finiteChannels c
  return (← byte v.x, ← byte v.y, ← byte v.z)

/-- A function with three written components and an alpha. -/
def functionText (name x y z alpha : Text) : Text :=
  name ++ '(' :: x ++ ' ' :: y ++ ' ' :: z ++ alpha ++ [')']

/-- A number with a percent sign. -/
def percentage (o : Options) (x : Float) : Except NumberError Text :=
  (number o x).map fun t => t ++ ['%']

/-- OKLCH, its lightness as a percentage. -/
def oklch (o : Options) (c : Color) : Except NumberError Text := do
  let v := finiteChannels c
  return functionText "oklch".toList (← percentage o (v.x * 100.0)) (← number o v.y)
    (← number o v.z) (← alphaPart o c)

/-- A function whose components are written as they are. -/
def raw (name : Text) (o : Options) (c : Color) : Except NumberError Text := do
  let v := finiteChannels c
  return functionText name (← number o v.x) (← number o v.y) (← number o v.z) (← alphaPart o c)

/-- RGB in whole numbers. -/
def rgb (o : Options) (c : Color) : Except NumberError Text := do
  let (r, g, b) ← bytes c
  return functionText "rgb".toList (intText r) (intText g) (intText b) (← alphaPart o c)

/-- HSL, saturation and lightness as percentages from 0 to 100. -/
def hsl (o : Options) (c : Color) : Except NumberError Text := do
  let v := finiteChannels c
  return functionText "hsl".toList (← number o v.x) (← percentage o (clampUnit v.y * 100.0))
    (← percentage o (clampUnit v.z * 100.0)) (← alphaPart o c)

/-- The numbers of a notation that are written with decimal places. -/
def placedNumbers (o : Options) (c : Color) : List Float :=
  let v := finiteChannels c
  let alpha := if writesAlpha o (definedAlpha c) then [definedAlpha c] else []
  match o.target with
  | .oklch => [v.x * 100.0, v.y, v.z] ++ alpha
  | .oklab => v.toList ++ alpha
  | .lch => v.toList ++ alpha
  | .lab => v.toList ++ alpha
  | .rgb => alpha
  | .hsl => [v.x, clampUnit v.y * 100.0, clampUnit v.z * 100.0] ++ alpha
  | .hex => []

/-- A hex literal, with a fourth byte for an alpha that is written. -/
def hex (o : Options) (c : Color) : Except NumberError Text := do
  let (r, g, b) ← bytes c
  let alpha := definedAlpha c
  let last ←
    if writesAlpha o alpha then (hexByte (clampUnit alpha * 255.0)).mapError NumberError.whole
    else pure []
  return '#' :: (byteDigits r ++ byteDigits g ++ byteDigits b ++ last)

end Rendering

/-- The notation of a colour whose components are in the target's space. -/
def Color.written (c : Color) (o : Options) : Except NumberError Text :=
  match o.target with
  | .oklch => Rendering.oklch o c
  | .oklab => Rendering.raw "oklab".toList o c
  | .lch => Rendering.raw "lch".toList o c
  | .lab => Rendering.raw "lab".toList o c
  | .rgb => Rendering.rgb o c
  | .hsl => Rendering.hsl o c
  | .hex => Rendering.hex o c

/-- Why a token is not converted: it is no colour, or its colour cannot be written in a space. -/
inductive TokenError where
  | unparseable (token : Text)
  | unrenderable (space : Space)
  deriving DecidableEq, Repr

/-- The message of a token error. -/
def TokenError.message : TokenError → Text
  | .unparseable token => "Cannot parse color '".toList ++ token ++ ['\'']
  | .unrenderable space => "Cannot convert color to ".toList ++ space.name

/-- A colour in the notation that the options ask for, with a colour library. -/
def ColorLibrary.render (l : ColorLibrary) (c : Color) (o : Options) : Except TokenError Text :=
  match l.inSpace? c o.target.space with
  | none => .error (.unrenderable o.target.space)
  | some converted =>
    match converted.written o with
    | .ok t => .ok t
    | .error _ => .error (.unrenderable o.target.space)

/-- A colour is rendered as the notation of what it is in the space of the target. -/
theorem ColorLibrary.render_eq_ok_iff {l : ColorLibrary} {c : Color} {o : Options} {out : Text} :
    l.render c o = .ok out ↔
      ∃ converted, l.inSpace? c o.target.space = some converted ∧ converted.written o = .ok out := by
  rw [render]
  cases l.inSpace? c o.target.space with
  | none => simp
  | some converted =>
    simp only [Option.some.injEq, exists_eq_left']
    cases converted.written o <;> simp

/-- A colour in the notation that the options ask for. -/
def Color.render (c : Color) (o : Options) : Except TokenError Text :=
  ColorLibrary.own.render c o

/-- Whether a number is written with decimal places when a colour is rendered; large numbers have an
exponent instead. -/
def Color.writesNumbers (c : Color) (o : Options) : Bool :=
  match c.inSpace? o.target.space with
  | none => false
  | some converted => (Rendering.placedNumbers o converted).any fun x => x.abs < fixedLimit

end CssColor

import CssColor.Color.Space
import CssColor.Number.Rounding

/-!
# Colours

- `Channels`: three components; one that is not a number is undefined.
- `Color`: components in a space, with an alpha.
-/

namespace CssColor

/-- Three components of a colour. -/
structure Channels where
  x : Float
  y : Float
  z : Float

namespace Channels

/-- The same function applied to each component. -/
def map (f : Float → Float) (v : Channels) : Channels :=
  ⟨f v.x, f v.y, f v.z⟩

/-- The same function applied to each component; one failure fails all. -/
def mapM? (f : Float → Option Float) (v : Channels) : Option Channels :=
  match f v.x, f v.y, f v.z with
  | some x, some y, some z => some ⟨x, y, z⟩
  | _, _, _ => none

/-- The components in order. -/
def toList (v : Channels) : List Float :=
  [v.x, v.y, v.z]

end Channels

/-- A colour in a space. Alpha is from zero to one, or undefined. -/
structure Color where
  space : Space
  channels : Channels
  alpha : Float

/-- The double that marks an undefined component. -/
def undefinedComponent : Float :=
  Binary64.nanFloat

/-- A component in a calculation: zero if it is undefined. -/
def definedOrZero (x : Float) : Float :=
  if x.isNaN then 0.0 else x

end CssColor

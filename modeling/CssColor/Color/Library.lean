import CssColor.Color.Conversion
import CssColor.Color.Reading

/-!
# Colour libraries

What is known of colours is left to a library: a conversion of texts asks it what
colour a token writes, and what a colour is in another space. Before that a token
is made small, and a colour that is in the space is kept, whatever the library.

- `ColorScience`: what is left to a library; `ColorScience.library`: what a
  conversion gets from it.
- `ColorLibrary`: readers and conversions of any kind.
- `ColorScience.own`, `ColorLibrary.own`: those of this development.
-/

namespace CssColor

/-- What a conversion asks of a colour library: to read a token and to change a colour's space. -/
structure ColorLibrary where
  read? : Text → Option Color
  inSpace? : Color → Space → Option Color

/-- The readers and conversions of this development. -/
def ColorLibrary.own : ColorLibrary :=
  ⟨Color.read?, Color.inSpace?⟩

/-- What is left to a library for colours: to read a token of small letters without blanks around
it, and to change a colour's space to another one. -/
structure ColorScience where
  parse? : Text → Option Color
  convert? : Color → Space → Option Color

namespace ColorScience

/-- Any token is read in small letters and without the blanks around it, and a colour that is in a
space is left as it is. -/
def library (s : ColorScience) : ColorLibrary where
  read? token := s.parse? token.trim.lowercase
  inSpace? c space := if c.space = space then some c else s.convert? c space

/-- The readers and conversions of this development. -/
def own : ColorScience :=
  ⟨Color.parse?, Color.inSpace?⟩

theorem parse?_own : own.parse? = Color.parse? := rfl

theorem library_own : own.library = ColorLibrary.own := by
  have hspace : own.library.inSpace? = Color.inSpace? := by
    funext c space
    show (if c.space = space then some c else c.inSpace? space) = c.inSpace? space
    by_cases h : c.space = space
    · rw [if_pos h, Color.inSpace?, if_pos h]
    · rw [if_neg h]
  show ColorLibrary.mk own.library.read? own.library.inSpace? = _
  rw [hspace]
  rfl

end ColorScience

end CssColor

import CssColor.Text.Basic
import CssColor.Text.Ranges

/-!
# Blank characters

- `isBlank`: the blanks of every script, among them the no-break and the
  ideographic space and the information separators U+001C to U+001F, but not
  the zero-width space or the byte order mark.
- `Text.trim`: a text without the blanks at its two ends.
-/

namespace CssColor

/-- The ranges of blank characters. -/
def blankRanges : CodeRanges :=
  [(9, 13), (28, 32), (133, 133), (160, 160), (5760, 5760), (8192, 8202),
   (8232, 8233), (8239, 8239), (8287, 8287), (12288, 12288)]

/-- Whether a character is blank. -/
def isBlank (c : Char) : Bool :=
  blankRanges.has c

namespace Text

/-- The text from its first character that is not blank. -/
def trimStart (t : Text) : Text :=
  t.dropWhile isBlank

/-- The text up to its last character that is not blank. -/
def trimEnd (t : Text) : Text :=
  (t.reverse.dropWhile isBlank).reverse

/-- The text without the blanks at both ends. -/
def trim (t : Text) : Text :=
  t.trimStart.trimEnd

end Text

end CssColor

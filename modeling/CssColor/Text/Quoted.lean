import CssColor.Text.Basic
import CssColor.Text.Printable

/-!
# Texts shown as literals

A message that names a text shows it between quotes, with everything escaped
that would not be seen.

- `Text.quote`: the literal of a text.
- `hexDigits`: a number in hexadecimal with a fixed count of digits.
-/

namespace CssColor

/-- A number in hexadecimal, filled up with zeros to at least `width` digits. -/
def hexDigits (width n : Nat) : Text :=
  let digits := Nat.toDigits 16 n
  List.replicate (width - digits.length) '0' ++ digits

namespace Text

/-- The quote around a literal: a single one, unless the text holds single quotes and no double
ones. -/
def quoteMark (t : Text) : Char :=
  if t.contains '\'' && !t.contains '"' then '"' else '\''

/-- A character inside a literal whose quote is `mark`. -/
def quoteChar (mark c : Char) : Text :=
  if c = mark || c = '\\' then ['\\', c]
  else if c = '\n' then ['\\', 'n']
  else if c = '\r' then ['\\', 'r']
  else if c = '\t' then ['\\', 't']
  else if isPrintable c then [c]
  else if c.toNat < 0x100 then '\\' :: 'x' :: hexDigits 2 c.toNat
  else if c.toNat < 0x10000 then '\\' :: 'u' :: hexDigits 4 c.toNat
  else '\\' :: 'U' :: hexDigits 8 c.toNat

/-- The literal of a text. -/
def quote (t : Text) : Text :=
  let mark := t.quoteMark
  mark :: (t.flatMap (quoteChar mark) ++ [mark])

end Text

end CssColor

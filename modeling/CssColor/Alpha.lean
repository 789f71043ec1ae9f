import CssColor.Text.Blank
import CssColor.Text.Word

/-!
# Alpha that is spelled out

- `hasExplicitAlpha`: whether a colour token writes its alpha, and does not
  leave it to be one.
-/

namespace CssColor

/-- What follows `rgba(` or `hsla(` at the start of a text, letters in either case; the long `s`
is a form of the letter. -/
def startsWithAlphaFunction : Text → Bool
  | a :: b :: c :: d :: '(' :: _ =>
    let sounds (x : Char) : Char := if x = '\u017f' then 's' else x.toLower
    let name := [a, b, c, d].map sounds
    name == "rgba".toList || name == "hsla".toList
  | _ => false

/-- Whether a text starts with `count` hexadecimal digits and a word ends behind them. -/
def startsWithDigitsOfWord (count : Nat) (t : Text) : Bool :=
  (t.take count).length == count && (t.take count).all isHexDigit
    && !(t.drop count).head?.any isWordLike

/-- Whether a text starts with a hex literal of four or eight digits. -/
def startsWithAlphaHex : Text → Bool
  | '#' :: t => startsWithDigitsOfWord 4 t || startsWithDigitsOfWord 8 t
  | _ => false

/-- Whether a token writes its alpha: it holds a slash, it is a call of `rgba` or `hsla`, it starts
with a hex literal of four or eight digits, or it is the word `transparent`. -/
def hasExplicitAlpha (token : Text) : Bool :=
  let t := token.trim
  t.contains '/' || startsWithAlphaFunction t || startsWithAlphaHex t
    || t.lowercase == "transparent".toList

end CssColor

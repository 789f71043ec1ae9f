import CssColor.Text.Quoted

/-!
# Texts of code points

An escape can name a half of a surrogate pair, which is no character. A text in
which one may stand is a list of code points.

- `CodePoint`: a character, or a half of a pair that stands alone.
- `CodeText`: a text of code points; `Text.codePoints` and `CodeText.text?` lead
  there and back.
- `CodeText.quote`: the literal of such a text.
-/

namespace CssColor

/-- A character, or a half of a surrogate pair that stands alone. -/
inductive CodePoint where
  | char (c : Char)
  | half (code : Nat)
  deriving DecidableEq, Repr

/-- The code point of a number; there are fewer than 0x110000. -/
def CodePoint.ofNat? (n : Nat) : Option CodePoint :=
  if 0xd800 ≤ n ∧ n < 0xe000 then some (.half n)
  else if n < 0x110000 then some (.char (Char.ofNat n))
  else none

/-- A text in which halves of pairs may stand. -/
abbrev CodeText := List CodePoint

/-- A text as code points. -/
def Text.codePoints (t : Text) : CodeText :=
  t.map .char

namespace CodeText

/-- The text of some code points, if all of them are characters. -/
def text? : CodeText → Option Text
  | [] => some []
  | .char c :: rest => (text? rest).map (c :: ·)
  | .half _ :: _ => none

/-- Every text is the text of its code points. -/
theorem text?_codePoints (t : Text) : text? (Text.codePoints t) = some t := by
  induction t with
  | nil => rfl
  | cons c rest ih =>
    have h : text? (Text.codePoints (c :: rest)) = (text? (Text.codePoints rest)).map (c :: ·) := rfl
    rw [h, ih]
    rfl

/-- The text with the replacement character for each half. -/
def shown (t : CodeText) : Text :=
  t.map fun
    | .char c => c
    | .half _ => '\ufffd'

/-- A code point inside a literal whose quote is `mark`. -/
def quotePoint (mark : Char) : CodePoint → Text
  | .char c => Text.quoteChar mark c
  | .half code => '\\' :: 'u' :: hexDigits 4 code

/-- The literal of a text of code points. -/
def quote (t : CodeText) : Text :=
  let mark := t.shown.quoteMark
  mark :: (t.flatMap (quotePoint mark) ++ [mark])

end CodeText

end CssColor

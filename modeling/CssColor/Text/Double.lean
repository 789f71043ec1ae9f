import CssColor.Number.Binary64
import CssColor.Text.Integer

/-!
# Doubles in text

- `Text.double?`: reads a number with or without a point and an exponent. Blanks
  may stand around it, a sign in front, digits may be of any script, and single
  underscores may stand between digits. Letters may be of either case, and
  `inf`, `infinity` and `nan` are numbers too.
-/

namespace CssColor

namespace Text

/-- A decimal digit of any script as one of `0` to `9`; other characters stay. -/
def commonDigit (c : Char) : Char :=
  match digitValue? c with
  | some d => Char.ofNat (48 + d)
  | none => c

/-- A text without the underscores that stand between two digits; no other may be in it. -/
def withoutUnderscores? : Text → Option Text
  | [] => some []
  | c :: '_' :: d :: rest =>
    if isAsciiDigit c && isAsciiDigit d then (withoutUnderscores? (d :: rest)).map (c :: ·)
    else none
  | c :: rest => if c = '_' then none else (withoutUnderscores? rest).map (c :: ·)

/-- The digits of a number and the power of ten that they count: digits with at most one point, and
an exponent. -/
def decimalParts? (t : Text) : Option (Nat × Int) :=
  let whole := t.takeWhile isAsciiDigit
  let rest := t.dropWhile isAsciiDigit
  let (fraction, rest) :=
    match rest with
    | '.' :: rest => (rest.takeWhile isAsciiDigit, rest.dropWhile isAsciiDigit)
    | rest => ([], rest)
  let digits := whole ++ fraction
  if digits.isEmpty then none
  else
    let n := Nat.ofDigitChars 10 digits 0
    match rest with
    | [] => some (n, -fraction.length)
    | 'e' :: power =>
      let (negative, ds) := splitSign power
      if ds.isEmpty || !ds.all isAsciiDigit then none
      else
        let e : Int := Nat.ofDigitChars 10 ds 0
        some (n, (if negative then -e else e) - fraction.length)
    | _ => none

/-- The number that a text without blanks, sign and underscores denotes. -/
def magnitude? (negative : Bool) (t : Text) : Option Float :=
  if t = "inf".toList ∨ t = "infinity".toList then some (Binary64.infiniteFloat negative)
  else if t = "nan".toList then some Binary64.nanFloat
  else (decimalParts? t).map fun (digits, exponent) => decimalFloat negative digits exponent

/-- The number that a text denotes. -/
def double? (t : Text) : Option Float :=
  let (negative, body) := t.trimNumber.splitSign
  (withoutUnderscores? (body.map commonDigit)).bind fun kept => magnitude? negative kept.lowercase

end Text

end CssColor

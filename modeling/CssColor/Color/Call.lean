import CssColor.Text.Blank
import CssColor.Number.Binary64

/-!
# Function notation

A colour in function notation is a name, a parenthesis, values and a closing
parenthesis. All letters are small.

- `Quantity`: a value: a number, a percentage, an angle or `none`.
- `Call`: what a token in function notation says, before it is checked against
  the function it names.
- `Call.read?`: reads the whole of a token.
-/

namespace CssColor

/-- The units of an angle. -/
inductive AngleUnit where
  | deg
  | rad
  | turn
  | grad
  deriving DecidableEq, Repr

/-- A value between the parentheses. -/
inductive Quantity where
  | none
  | number (x : Float)
  | percent (x : Float)
  | angle (x : Float) (unit : AngleUnit)

namespace Quantity

/-- Whether the value is `none`. -/
def isNone : Quantity → Bool
  | none => true
  | _ => false

/-- Whether the value is a plain number. -/
def isNumber : Quantity → Bool
  | number _ => true
  | _ => false

/-- Whether the value is a percentage. -/
def isPercent : Quantity → Bool
  | percent _ => true
  | _ => false

/-- Whether the value has the unit of an angle. -/
def isAngle : Quantity → Bool
  | angle .. => true
  | _ => false

/-- Whether two values are of one kind. -/
def sameKind : Quantity → Quantity → Bool
  | none, none => true
  | number _, number _ => true
  | percent _, percent _ => true
  | angle .., angle .. => true
  | _, _ => false

end Quantity

/-- A token in function notation: the name, the space that `color` names first, the values, whether
commas separate them, and whether a slash stands before the last. -/
structure Call where
  name : Text
  space : Option Text
  values : List Quantity
  commas : Bool
  slash : Bool

namespace Call

/-! ## Values -/

/-- The digits at the start of a text, and what follows them. -/
def spanDigits (t : Text) : Text × Text :=
  (t.takeWhile isAsciiDigit, t.dropWhile isAsciiDigit)

/-- The whole and the fractional digits of a number. A point counts only before a digit. -/
def mantissa? (t : Text) : Option (Text × Text × Text) :=
  let (whole, rest) := spanDigits t
  let plain := if whole.isEmpty then none else some (whole, [], rest)
  match rest with
  | '.' :: more =>
    let (fraction, left) := spanDigits more
    if fraction.isEmpty then plain else some (whole, fraction, left)
  | _ => plain

/-- The power of ten after a number; without digits it is no power and counts as zero. -/
def power (t : Text) : Int × Text :=
  match t with
  | 'e' :: rest =>
    let (negative, body) := match rest with
      | '-' :: body => (true, body)
      | '+' :: body => (false, body)
      | body => (false, body)
    let (ds, left) := spanDigits body
    if ds.isEmpty then (0, t)
    else
      let n : Int := Nat.ofDigitChars 10 ds 0
      (if negative then -n else n, left)
  | _ => (0, t)

/-- A number with an optional sign, and what follows it. -/
def number? (t : Text) : Option (Float × Text) :=
  let (negative, body) := match t with
    | '-' :: body => (true, body)
    | '+' :: body => (false, body)
    | body => (false, body)
  (mantissa? body).map fun (whole, fraction, rest) =>
    let (e, left) := power rest
    let digits := Nat.ofDigitChars 10 (whole ++ fraction) 0
    (decimalFloat negative digits (e - fraction.length), left)

/-- A value, and what follows it. -/
def quantity? : Text → Option (Quantity × Text)
  | 'n' :: 'o' :: 'n' :: 'e' :: rest => some (.none, rest)
  | t => (number? t).map fun (x, rest) =>
    match rest with
    | '%' :: left => (.percent x, left)
    | 'd' :: 'e' :: 'g' :: left => (.angle x .deg, left)
    | 'r' :: 'a' :: 'd' :: left => (.angle x .rad, left)
    | 't' :: 'u' :: 'r' :: 'n' :: left => (.angle x .turn, left)
    | 'g' :: 'r' :: 'a' :: 'd' :: left => (.angle x .grad, left)
    | left => (.number x, left)

/-! ## Lists of values -/

/-- What follows a mark with blanks on both its sides. -/
def mark? (mark : Char) (t : Text) : Option Text :=
  match t.trimStart with
  | c :: rest => if c = mark then some (Text.trimStart rest) else none
  | [] => none

/-- The values and what follows the last; `slash` tells that one stood before the last. -/
structure Values where
  values : List Quantity
  slash : Bool
  rest : Text

/-- No more values. -/
def Values.none (t : Text) : Values := ⟨[], false, t⟩

/-- One more value in front. -/
def Values.cons (q : Quantity) (vs : Values) : Values :=
  { vs with values := q :: vs.values }

/-- Values with commas between them, at most `most`; one comma may stand after the last. -/
def commaValues : Nat → Text → Values
  | 0, t => .none t
  | most + 1, t =>
    match quantity? t with
    | none => .none t
    | some (q, rest) =>
      match mark? ',' rest with
      | some more => (commaValues most more).cons q
      | none => ⟨[q], false, rest⟩

/-- Values with blanks or nothing between them, at most `most`. A slash is followed by one last
value; where none follows, the list ends before the slash. -/
def blankValues : Nat → Text → Values
  | 0, t => .none t
  | most + 1, t =>
    match quantity? t with
    | none => .none t
    | some (q, rest) =>
      match mark? '/' rest with
      | some more =>
        match quantity? more with
        | some (alpha, left) => ⟨[q, alpha], true, left⟩
        | none => ⟨[q], false, rest⟩
      | none => (blankValues most (Text.trimStart rest)).cons q

/-- No list of values is read further than this. -/
def mostValues : Nat := 16

/-! ## Calls -/

/-- The functions whose values stand right after the parenthesis. -/
def functionNames : List Text :=
  ["rgb".toList, "rgba".toList, "hsl".toList, "hsla".toList, "hwb".toList, "lab".toList,
   "lch".toList, "oklab".toList, "oklch".toList]

/-- The identifier of a space: up to two hyphens, a letter, then letters, digits, hyphens and
underscores. -/
def identifier? (t : Text) : Option (Text × Text) :=
  let hyphens := (t.takeWhile (· == '-')).length
  match t.drop hyphens with
  | c :: _ =>
    if hyphens ≤ 2 ∧ 'a' ≤ c ∧ c ≤ 'z' then
      let part (c : Char) : Bool := ('a' ≤ c && c ≤ 'z') || isAsciiDigit c || c == '-' || c == '_'
      some (t.takeWhile part, t.dropWhile part)
    else none
  | [] => none

/-- A call whose values have been read, if nothing but the closing parenthesis is left. -/
def close? (name : Text) (space : Option Text) (commas : Bool) (vs : Values) : Option Call :=
  if vs.rest.trimStart = [')'] then some ⟨name, space, vs.values, commas, vs.slash⟩ else none

/-- Reads a token in function notation. What follows the first value settles whether commas
separate the values. -/
def read? (t : Text) : Option Call :=
  let name := t.takeWhile fun c => 'a' ≤ c && c ≤ 'z'
  match t.dropWhile fun c => 'a' ≤ c && c ≤ 'z' with
  | '(' :: rest =>
    let body := Text.trimStart rest
    if name = "color".toList then
      match identifier? body with
      | some (space, more) =>
        if more.head?.any isBlank then
          close? name (some space) false (blankValues mostValues (Text.trimStart more))
        else none
      | none => none
    else if functionNames.contains name then
      match quantity? body with
      | some (_, more) =>
        if (mark? ',' more).isSome then close? name none true (commaValues mostValues body)
        else close? name none false (blankValues mostValues body)
      | none => none
    else none
  | _ => none

end Call

end CssColor

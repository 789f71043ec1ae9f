import CssColor.Text.Case
import CssColor.Text.Double
import CssColor.Yaml.Error

/-!
# Numbers in YAML scalars

- `intScalar`: the whole number that a scalar denotes.
- `floatScalar`: the number with a point that a scalar denotes.

Underscores mean nothing in both, and colons separate parts of sixty.
-/

namespace CssColor

namespace Yaml

/-! ## Parts of a number -/

/-- The digits of a number: its text without underscores. -/
def withoutGaps (t : CodeText) : CodeText :=
  t.filter (· ≠ .char '_')

/-- A number's sign and what follows it. -/
def signOf : CodeText → Bool × CodeText
  | .char '-' :: t => (true, t)
  | .char '+' :: t => (false, t)
  | t => (false, t)

/-- The parts of a text between marks. -/
def splitOn (mark : CodePoint) : CodeText → List CodeText
  | [] => [[]]
  | c :: t =>
    if c = mark then [] :: splitOn mark t
    else match splitOn mark t with
      | [] => [[c]]
      | part :: parts => (c :: part) :: parts

/-! ## Whole numbers -/

/-- The value of a digit in a base of up to sixteen. -/
def digitIn? (base : Nat) (c : Char) : Option Nat :=
  (hexValue? c).bind fun d => if d < base then some d else none

/-- The number that digits of a base denote. -/
def digitsIn? (base : Nat) (t : Text) : Option Nat :=
  if t.isEmpty then none
  else t.foldl (fun n c => match n, digitIn? base c with
    | some n, some d => some (base * n + d)
    | _, _ => none) (some 0)

/-- The letter that marks a base behind a zero. -/
def baseLetter? : Nat → Option Char
  | 2 => some 'b'
  | 8 => some 'o'
  | 16 => some 'x'
  | _ => none

/-- The digits without the mark of their base, if it stands before them. -/
def withoutBaseMark (base : Nat) : Text → Text
  | '0' :: c :: t => if baseLetter? base = some c.toLower then t else '0' :: c :: t
  | t => t

/-- A whole number in a base of two, eight or sixteen, with blanks around it, a sign and a mark of
the base. Decimal digits may be of any script, also the zero of the mark. -/
def integerIn (base : Nat) (t : CodeText) : Except ScalarError Int :=
  let (negative, body) := t.shown.trimNumber.splitSign
  match digitsIn? base (withoutBaseMark base (body.map Text.commonDigit)) with
  | some n => .ok (if negative then -(n : Int) else n)
  | none => .error (.integer base t)

/-- A whole number in decimal. -/
def decimalInteger (t : CodeText) : Except ScalarError Int :=
  match t.shown.integer with
  | .ok n => .ok n
  | .error (.malformed _) => .error (.integer 10 t)
  | .error (.tooLong digits) => .error (.longInteger digits)

/-- The whole number that a scalar denotes: a zero in front leads to another base. -/
def intScalar (t : CodeText) : Except ScalarError Int := do
  let (negative, body) := signOf (withoutGaps t)
  let signed (n : Int) : Int := if negative then -n else n
  match body with
  | [] => throw .emptyNumber
  | [.char '0'] => return 0
  | .char '0' :: .char 'b' :: digits => return signed (← integerIn 2 digits)
  | .char '0' :: .char 'x' :: digits => return signed (← integerIn 16 digits)
  | .char '0' :: _ => return signed (← integerIn 8 body)
  | _ =>
    let parts ← (splitOn (.char ':') body).mapM decimalInteger
    return signed (parts.foldl (fun n part => 60 * n + part) 0)

/-! ## Numbers with a point -/

/-- The number that one part of a scalar denotes. -/
def floatPart (t : CodeText) : Except ScalarError Float :=
  match t.shown.double? with
  | some x => .ok x
  | none => .error (.float t)

/-- What a part of sixty counts, with `n` parts behind it. -/
def partWeight (n : Nat) : Except ScalarError Float :=
  let weight := decimalFloat false (Nat.pow 60 n) 0
  if weight.isInf then .error .manyParts else .ok weight

/-- The number that parts of sixty denote, the last of them first. -/
def sumParts (parts : List Float) : Except ScalarError Float :=
  parts.zipIdx.foldlM (fun sum (part, n) => do return sum + part * (← partWeight n)) 0.0

/-- The sign of a number with a point, and the rest of it in small letters. -/
def floatBody (t : CodeText) : Bool × CodeText :=
  signOf (withoutGaps t).lowercase

/-- The word for infinity. -/
def infinityWord : CodeText := ".inf".toList.map .char

/-- The word for what is no number. -/
def undefinedWord : CodeText := ".nan".toList.map .char

/-- The number with a point that a scalar denotes. -/
def floatScalar (t : CodeText) : Except ScalarError Float := do
  if (withoutGaps t).isEmpty then throw .emptyNumber
  let (negative, body) := floatBody t
  let signed (x : Float) : Float := if negative then -x else x
  if body = infinityWord then return Binary64.infiniteFloat negative
  else if body = undefinedWord then return Binary64.nanFloat
  else if body.contains (.char ':') then
    let parts ← (splitOn (.char ':') body).mapM floatPart
    return signed (← sumParts parts.reverse)
  else return signed (← floatPart body)

end Yaml

end CssColor

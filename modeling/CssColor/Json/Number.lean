import CssColor.Json.Basic
import CssColor.Number.Fixed
import CssColor.Text.Double

/-!
# Documents as numbers

- `Json.whole?`: the whole number that a document is; truth values are one and
  zero.
- `Json.double`: a document as a double.
- `Json.positive`: whether a document is a number above zero.
- `Json.bound`, `Json.firstOf`: a document as a count of items, and as many of
  them.
- `Json.placesText`, `Json.shortText`: a double with as many decimal places as a
  document says, or with so many at most.
-/

namespace CssColor

/-- Why a document cannot stand where a number is needed. -/
inductive OperandError where
  /-- Nothing that a number can be read from. -/
  | noNumber (kind : Text)
  /-- A text that denotes no number. -/
  | malformed (t : Text)
  /-- A whole number beyond all doubles. -/
  | tooLarge
  /-- Neither a whole number nor nothing, where items are counted. -/
  | noBound
  /-- Two kinds that have no order between them. -/
  | unordered (sign left right : Text)
  /-- Two kinds that cannot be added or subtracted. -/
  | notCombined (sign left right : Text)
  /-- A kind that can be added to its own kind only. -/
  | notJoined (kind other : Text)
  /-- The places of a number cannot be written. -/
  | places (e : FixedError)
  deriving DecidableEq, Repr

/-- The message of an operand error. -/
def OperandError.message : OperandError → Text
  | .noNumber kind =>
    "float() argument must be a string or a real number, not '".toList ++ kind ++ ['\'']
  | .malformed t => "could not convert string to float: ".toList ++ t.quote
  | .tooLarge => "int too large to convert to float".toList
  | .noBound => "slice indices must be integers or None or have an __index__ method".toList
  | .unordered sign left right =>
    '\'' :: sign ++ "' not supported between instances of '".toList ++ left ++ "' and '".toList
      ++ right ++ ['\'']
  | .notCombined sign left right =>
    "unsupported operand type(s) for ".toList ++ sign ++ ": '".toList ++ left ++ "' and '".toList
      ++ right ++ ['\'']
  | .notJoined kind other =>
    "can only concatenate ".toList ++ kind ++ " (not \"".toList ++ other ++ "\") to ".toList ++ kind
  | .places e => e.message

namespace Json

/-! ## Kinds of numbers -/

/-- The name of the kind of whole numbers. -/
def wholeKind : Text := kind (int 0)

/-- The whole number that a document is; a truth value is one or zero. -/
def whole? : Json → Option Int
  | int n => some n
  | bool b => some (if b then 1 else 0)
  | _ => none

/-- The text of a number. -/
def numberText : Json → Text
  | int n => intText n
  | float x => floatText x
  | bool b => if b then "True".toList else "False".toList
  | _ => []

/-- A document as a double: texts are read, and whole numbers rounded to the nearest. -/
def double : Json → Except OperandError Float
  | float x => .ok x
  | string t =>
    match t.double? with
    | some x => .ok x
    | none => .error (.malformed t)
  | j =>
    match j.whole? with
    | none => .error (.noNumber j.kind)
    | some n =>
      let x := decimalFloat (n < 0) n.natAbs 0
      if x.isInf then .error .tooLarge else .ok x

/-- Whether a number is above zero. -/
def positive : Json → Except OperandError Bool
  | float x => .ok (0.0 < x)
  | j =>
    match j.whole? with
    | some n => .ok (0 < n)
    | none => .error (.unordered ['>'] j.kind wholeKind)

/-! ## Counts of items -/

/-- The count that a document sets; null sets none. -/
def bound : Json → Except OperandError (Option Int)
  | null => .ok none
  | j =>
    match j.whole? with
    | some n => .ok (some n)
    | none => .error .noBound

/-- The first items, as many as a document says: all of them if it sets no count. -/
def firstOf {α : Type} (count : Json) (items : List α) : Except OperandError (List α) :=
  count.bound.map fun
    | none => items
    | some n => firstItems items n

/-- A whole number says how many items come first. -/
theorem firstOf_int {α : Type} (n : Int) (items : List α) :
    firstOf (int n) items = .ok (firstItems items n) := rfl

/-! ## Decimal places -/

/-- A double with as many decimal places as a document says; what is written with an exponent has
none. -/
def placesText (places : Json) (x : Float) : Except OperandError Text :=
  match places with
  | float _ => (toFraction x).mapError .places
  | j =>
    match j.whole? with
    | some n => (toPlaces x n).mapError .places
    | none =>
      if x.abs < fixedLimit then .error (.notCombined ['+'] wholeKind j.kind)
      else (toFixed x 0).mapError .places

/-- A double with as many decimal places at most as a document says. -/
def shortText (places : Json) (x : Float) : Except OperandError Text :=
  match places.placesText x with
  | .error e => .error e
  | .ok fixed =>
    if fixed.contains 'e' then .ok fixed
    else places.positive.map fun hasFraction => shortened hasFraction fixed

end Json

end CssColor

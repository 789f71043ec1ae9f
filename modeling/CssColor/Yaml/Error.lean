import CssColor.Text.CodePoint
import CssColor.Text.Integer

/-!
# Why a YAML stream has no value

- `ScalarError`: what a well-formed stream may hold that denotes nothing: a
  scalar that is no value of its kind, or a number that is out of range.
- `YamlError`: the stream is not well formed, or there is such an error in it.
-/

namespace CssColor

namespace Yaml

/-- What is written well and denotes nothing. -/
inductive ScalarError where
  /-- No whole number in a base. -/
  | integer (base : Nat) (t : CodeText)
  /-- A whole number of too many digits. -/
  | longInteger (digits : Nat)
  /-- No number with a point. -/
  | float (t : CodeText)
  /-- A number of which nothing is there. -/
  | emptyNumber
  /-- A number of so many parts of sixty that the first cannot be weighed. -/
  | manyParts
  /-- No truth value. -/
  | truth (t : CodeText)
  /-- No moment by its form. -/
  | moment
  /-- A mapping in the place of a moment. -/
  | momentMapping
  /-- No moment of the calendar: the reason says which part is out of range. -/
  | calendar (reason : Text)
  /-- The number of an escape that is no code point. -/
  | codePoint (n : Nat)
  /-- Collections, merges or own values of mappings inside one another too often. -/
  | tooDeep
  deriving DecidableEq, Repr

/-- Numbers of escapes from here on are too large even to be compared with the code points. -/
def escapeLimit : Nat := Nat.pow 2 31

/-- The message of a scalar error; the literal of a long malformed number is cut. -/
def ScalarError.message : ScalarError → Text
  | .integer base t =>
    "invalid literal for int() with base ".toList ++ natText base ++ ": ".toList ++ t.quote.take 200
  | .longInteger digits => (IntegerError.tooLong digits).message
  | .float t => "could not convert string to float: ".toList ++ t.quote
  | .emptyNumber => "string index out of range".toList
  | .manyParts => "int too large to convert to float".toList
  | .truth t => t.quote
  | .moment => "'NoneType' object has no attribute 'groupdict'".toList
  | .momentMapping => "expected string or bytes-like object, got 'list'".toList
  | .calendar reason => reason
  | .codePoint n =>
    if n < escapeLimit then "chr() arg not in range(0x110000)".toList
    else "Python int too large to convert to C int".toList
  | .tooDeep => "maximum recursion depth exceeded".toList

/-- Why a stream has no value. -/
inductive YamlError where
  | malformed
  | scalar (e : ScalarError)
  deriving DecidableEq, Repr

/-- What is there, or the error of a stream that is not well formed. -/
def orMalformed {α : Type} : Option α → Except YamlError α
  | some a => .ok a
  | none => .error .malformed

end Yaml

end CssColor

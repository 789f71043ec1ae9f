import CssColor.Text.Basic

/-!
# Patterns

- `Pattern`: for a text, the texts that a match at its start may leave,
  preferred ones first.
- `Pattern.char`, `Pattern.many`, `Pattern.some`, `Pattern.times`,
  `Pattern.word`, `Pattern.ahead`: single characters, runs, given words, and
  conditions on what follows.
- `Pattern.andThen`, `Pattern.orElse`, `Pattern.anyOf`, `Pattern.maybe`: one
  pattern after another, or one instead of another.
-/

namespace CssColor

/-- What may be left of a text after a match at its start, preferred rests first. -/
abbrev Pattern := Text → List Text

namespace Pattern

/-- One character of a class. -/
def char (p : Char → Bool) : Pattern
  | c :: t => if p c then [t] else []
  | [] => []

/-- The rests after each count of characters of a class, put before those in `after`. -/
def runs (p : Char → Bool) (after : List Text) : Text → List Text
  | c :: t => if p c then runs p ((c :: t) :: after) t else (c :: t) :: after
  | [] => [] :: after

/-- Any count of characters of a class, longer runs first. -/
def many (p : Char → Bool) : Pattern :=
  runs p []

/-- One pattern and then another. -/
def andThen (first second : Pattern) : Pattern :=
  fun t => (first t).flatMap second

/-- The matches of one pattern, then those of another. -/
def orElse (first second : Pattern) : Pattern :=
  fun t => first t ++ second t

/-- At least one character of a class, longer runs first. -/
def some (p : Char → Bool) : Pattern :=
  (char p).andThen (many p)

/-- A given count of characters of a class. -/
def times (p : Char → Bool) : Nat → Pattern
  | 0 => fun t => [t]
  | n + 1 => (char p).andThen (times p n)

/-- The given small letters and signs, letters in either case. -/
def word : Text → Pattern
  | [] => fun t => [t]
  | c :: w => (char fun x => x.toLower == c).andThen (word w)

/-- Nothing, where the text ahead satisfies a condition. -/
def ahead (p : Text → Bool) : Pattern :=
  fun t => if p t then [t] else []

/-- The matches of several patterns in their order. -/
def anyOf : List Pattern → Pattern
  | [] => fun _ => []
  | p :: ps => p.orElse (anyOf ps)

/-- A pattern, or nothing. -/
def maybe (p : Pattern) : Pattern :=
  p.orElse fun t => [t]

end Pattern

end CssColor
